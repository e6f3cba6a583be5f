import FailureAlarm.Alarm.State
import Mathlib.Data.List.Nodup

/-!
# Lifetimes of requests

A history of requests is a list of what happens to them: one is started, one is stopped, or time
passes. This module says what a history means for each request, without regard to who keeps track of it:
how old the request has become in flight, and whether it is over (`lives`). A request that is over grows
no older.

For any length of time `d` the requests fall into three kinds: those that came to the age `d` in flight
(`hung`), those in flight that are younger (`young`), and those that were stopped before. The lemmas
`young_concat` and `hung_concat` say how the kinds change with one thing more that happens: of those
that were young, and of the one that may have been started, the ones that come to the age `d` go over to
`hung`, at its end, and the others stay. `hung_split` and `mem_ids_young_iff` say what becomes of a
request in terms of what happens after its start.
-/

namespace FailureAlarm

/-- What happens to requests. -/
inductive LifeEvent where
  | start (request : Request)
  | stop (id : RequestId)
  | pass (duration : Duration)
deriving DecidableEq

namespace Lifetime

/-- The time that passes, in nanoseconds. -/
def elapsed : List LifeEvent → Nat
  | [] => 0
  | .pass d :: h => d.nanoseconds + elapsed h
  | _ :: h => elapsed h

/-- The time that passes, in nanoseconds, until a request with this identifier is stopped. -/
def age (id : RequestId) : List LifeEvent → Nat
  | [] => 0
  | .start _ :: h => age id h
  | .stop id' :: h => if id' = id then 0 else age id h
  | .pass d :: h => d.nanoseconds + age id h

/-- So much time passes, and passes before a request with this identifier is stopped. -/
def Lasts (d : Duration) (id : RequestId) (h : List LifeEvent) : Prop :=
  d.nanoseconds ≤ elapsed h ∧ ∀ g g', h = g ++ .stop id :: g' → d.nanoseconds ≤ elapsed g

/-- A request with this identifier has been started and not been stopped since, less than `d` ago. -/
def InFlight (d : Duration) (id : RequestId) (h : List LifeEvent) : Prop :=
  ∃ before r after, h = before ++ .start r :: after ∧ r.id = id ∧
    .stop r.id ∉ after ∧ elapsed after < d.nanoseconds

/-- A request, the age to which it has come in flight, and whether it is over. -/
structure Life where
  request : Request
  age : Nat
  isOver : Bool
deriving DecidableEq

/-- The life of a request that has just been started, while this happens. -/
def life (r : Request) (h : List LifeEvent) : Life := ⟨r, age r.id h, .stop r.id ∈ h⟩

/-- The requests that are started in a history. -/
def starts : List LifeEvent → List Request
  | [] => []
  | .start r :: h => r :: starts h
  | _ :: h => starts h

/-- What becomes of the requests that are started in a history, in the order of their start. -/
def lives : List LifeEvent → List Life
  | [] => []
  | .start r :: h => life r h :: lives h
  | _ :: h => lives h

namespace Life

/-- The request came to the age `d` in flight. -/
def reached (d : Duration) (x : Life) : Bool := d.nanoseconds ≤ x.age

/-- The request is in flight and younger than `d`. -/
def isYoung (d : Duration) (x : Life) : Bool := !x.isOver && !x.reached d

/-- What one thing more that happens does to the life of a request. -/
def next (e : LifeEvent) (x : Life) : Life :=
  match e with
  | .start _ => x
  | .stop id => if x.request.id = id then { x with isOver := true } else x
  | .pass d => if x.isOver then x else { x with age := x.age + d.nanoseconds }

/-- The time at which the request comes to the age `d`, if it is in flight when it is `now`. -/
def deadline (d : Duration) (now : Nat) (x : Life) : Duration := ⟨now + d.nanoseconds - x.age⟩

end Life

/-- The requests that came to the age `d` in flight, in the order of their start. -/
def hung (d : Duration) (h : List LifeEvent) : List Request :=
  ((lives h).filter (·.reached d)).map (·.request)

/-- The requests in flight that are younger than `d`, in the order of their start. -/
def young (d : Duration) (h : List LifeEvent) : List Life := (lives h).filter (·.isYoung d)

/-- The life that begins with what happens. -/
def newborn : LifeEvent → List Life
  | .start r => [⟨r, 0, false⟩]
  | _ => []

/-- The requests in flight after one thing more has happened, without those that had come to the age
`d` before. -/
def awaited (d : Duration) (h : List LifeEvent) (e : LifeEvent) : List Life :=
  ((young d h).map (Life.next e)).filter (!·.isOver) ++ newborn e

/-! ### Time -/

theorem elapsed_append (g h : List LifeEvent) : elapsed (g ++ h) = elapsed g + elapsed h := by
  induction g with
  | nil => exact (Nat.zero_add _).symm
  | cons e g ih =>
      cases e with
      | pass d =>
          show d.nanoseconds + elapsed (g ++ h) = d.nanoseconds + elapsed g + elapsed h
          rw [ih, Nat.add_assoc]
      | _ => exact ih

/-- Nobody grows older in flight than time has passed. -/
theorem age_le_elapsed (id : RequestId) (h : List LifeEvent) : age id h ≤ elapsed h := by
  induction h with
  | nil => exact Nat.le_refl 0
  | cons e h ih =>
      cases e with
      | start r => exact ih
      | stop id' =>
          show (if id' = id then 0 else age id h) ≤ elapsed h
          split
          · exact Nat.zero_le _
          · exact ih
      | pass d => exact Nat.add_le_add_left ih _

/-- Once it is stopped, a request grows no older; until then it ages with the clock. -/
theorem age_append (id : RequestId) (g h : List LifeEvent) :
    age id (g ++ h) = if .stop id ∈ g then age id g else elapsed g + age id h := by
  induction g with
  | nil => simp [elapsed]
  | cons e g ih =>
      cases e with
      | start r => simpa [age, elapsed] using ih
      | stop id' =>
          by_cases hid : id' = id
          · simp [age, hid]
          · simpa [age, elapsed, hid, Ne.symm hid] using ih
      | pass d =>
          show d.nanoseconds + age id (g ++ h) = _
          rw [ih]
          simp only [List.mem_cons, reduceCtorEq, false_or, age, elapsed]
          split
          · rfl
          · rw [Nat.add_assoc]

/-- A request that is not stopped is as old as the time that has passed. -/
theorem age_of_inFlight {id : RequestId} {h : List LifeEvent} (hstop : .stop id ∉ h) :
    age id h = elapsed h := by
  have happend := age_append id h []
  rw [List.append_nil, if_neg hstop] at happend
  exact happend

/-- The age to which a request comes says how long it lasts. -/
theorem lasts_iff {d : Duration} {id : RequestId} {h : List LifeEvent} :
    Lasts d id h ↔ d.nanoseconds ≤ age id h := by
  constructor
  · rintro ⟨helapsed, hstops⟩
    by_cases hstop : .stop id ∈ h
    -- The first stop is the one that counts.
    · obtain ⟨g, g', rfl, hfirst⟩ := List.eq_append_cons_of_mem hstop
      rw [age_append, if_neg hfirst]
      exact Nat.le_trans (hstops g g' rfl) (Nat.le_add_right _ _)
    · rw [age_of_inFlight hstop]
      exact helapsed
  · intro hage
    refine ⟨Nat.le_trans hage (age_le_elapsed id h), ?_⟩
    rintro g g' rfl
    rw [age_append] at hage
    split at hage
    · exact Nat.le_trans hage (age_le_elapsed id g)
    · simpa [age] using hage

/-- A deadline is over exactly when the age has been reached. The subtraction in `deadline` cannot get in
the way: if it comes out as zero, the request is older than `d` anyway. -/
theorem Life.deadline_le_iff {d : Duration} {now : Nat} {x : Life} :
    (x.deadline d now).nanoseconds ≤ now ↔ x.reached d = true := by
  unfold deadline reached
  rw [decide_eq_true_eq]
  dsimp only
  omega

/-- While time passes, a request and the clock move on together, so its deadline stays where it is. -/
theorem Life.deadline_older (d p : Duration) (now : Nat) (x : Life) :
    ({ x with age := x.age + p.nanoseconds } : Life).deadline d (now + p.nanoseconds) =
      x.deadline d now := by
  unfold deadline
  dsimp only
  congr 1
  omega

/-! ### One thing more that happens -/

/-- **One thing more that happens** reaches every life that there is so far, and may begin a new one. -/
theorem lives_concat (h : List LifeEvent) (e : LifeEvent) :
    lives (h ++ [e]) = (lives h).map (Life.next e) ++ newborn e := by
  induction h with
  | nil => cases e <;> rfl
  | cons e' h ih =>
      cases e' with
      | start r =>
          show life r (h ++ [e]) :: lives (h ++ [e]) =
            (life r h).next e :: ((lives h).map (Life.next e) ++ newborn e)
          rw [ih]
          congr 1
          unfold life
          rw [age_append]
          -- Nothing that happens concerns a request that is over.
          by_cases hstop : .stop r.id ∈ h
          · cases e <;> simp [Life.next, hstop]
          · rw [if_neg hstop, age_of_inFlight hstop]
            cases e with
            | start r' => simp [Life.next, hstop, age]
            | stop id => by_cases hid : r.id = id <;> simp [Life.next, hstop, age, hid]
            | pass d => simp [Life.next, hstop, age]
      | stop id => exact ih
      | pass d => exact ih

/-- The requests keep the order of their start. -/
theorem map_request_lives (h : List LifeEvent) : (lives h).map (·.request) = starts h := by
  induction h with
  | nil => rfl
  | cons e h ih =>
      cases e with
      | start r => exact congrArg (r :: ·) ih
      | _ => exact ih

namespace Life

@[simp] theorem request_next (e : LifeEvent) (x : Life) : (x.next e).request = x.request := by
  cases e with
  | start r => rfl
  | _ => simp only [next]; split <;> rfl

theorem age_le_next (e : LifeEvent) (x : Life) : x.age ≤ (x.next e).age := by
  cases e with
  | start r => exact Nat.le_refl _
  | _ => simp only [next]; split <;> simp

/-- What is over stays over. -/
theorem isOver_next {e : LifeEvent} {x : Life} (h : x.isOver = true) : (x.next e).isOver = true := by
  cases e with
  | start r => exact h
  | stop id => simp only [next]; split <;> simp [h]
  | pass d => simp [next, h]

/-- A request that is over now did not age in this step, for only time makes older, and it leaves alone
those that are over. -/
theorem age_next {e : LifeEvent} {x : Life} (h : (x.next e).isOver = true) :
    (x.next e).age = x.age := by
  cases e with
  | start r => rfl
  | stop id => simp only [next]; split <;> rfl
  | pass d =>
      simp only [next] at h ⊢
      split
      · rfl
      · next hover =>
          rw [if_neg hover] at h
          exact absurd h hover

/-- Those that are young have been so before, are not stopped and do not come to the age `d`. -/
theorem isYoung_next (d : Duration) (e : LifeEvent) (x : Life) :
    (x.next e).isYoung d = (x.isYoung d && !(x.next e).isOver && !(x.next e).reached d) := by
  have hage := x.age_le_next e
  have hover := isOver_next (e := e) (x := x)
  rw [Bool.eq_iff_iff]
  simp only [isYoung, reached, Bool.and_eq_true, Bool.not_eq_true', decide_eq_false_iff_not]
  grind

/-- Those that have come to the age `d` had come to it before, or have been young until now. -/
theorem reached_next (d : Duration) (e : LifeEvent) (x : Life) :
    (x.next e).reached d =
      (x.reached d || x.isYoung d && !(x.next e).isOver && (x.next e).reached d) := by
  have hage := x.age_le_next e
  rw [Bool.eq_iff_iff]
  simp only [isYoung, reached, Bool.and_eq_true, Bool.or_eq_true, Bool.not_eq_true',
    decide_eq_false_iff_not, decide_eq_true_eq]
  constructor
  · intro hreached
    by_cases hbefore : d.nanoseconds ≤ x.age
    · exact Or.inl hbefore
    -- It has grown older, so it is not over, and was not before.
    · have hover : (x.next e).isOver = false := by
        rw [← Bool.not_eq_true]
        intro hover
        rw [age_next hover] at hreached
        exact hbefore hreached
      have hover' : x.isOver = false := by
        rw [← Bool.not_eq_true]
        intro hover'
        rw [isOver_next hover'] at hover
        cases hover
      exact Or.inr ⟨⟨⟨hover', hbefore⟩, hover⟩, hreached⟩
  · rintro (hbefore | ⟨-, hreached⟩)
    · exact Nat.le_trans hbefore hage
    · exact hreached

end Life

/-- A request is no older than the history since its start, hence no older than the whole. -/
theorem age_of_mem_lives {h : List LifeEvent} : ∀ x ∈ lives h, x.age ≤ elapsed h := by
  induction h with
  | nil => intro x hx; cases hx
  | cons e h ih =>
      cases e with
      | start r =>
          intro x hx
          rcases List.mem_cons.mp hx with rfl | hx
          · exact age_le_elapsed r.id h
          · exact ih x hx
      | stop id => exact ih
      | pass d => exact fun x hx => Nat.le_add_left_of_le (ih x hx)

/-- A request in flight is at least as old as those that were started after it. -/
theorem pairwise_lives (h : List LifeEvent) :
    (lives h).Pairwise fun x y => x.isOver = false → y.age ≤ x.age := by
  induction h with
  | nil => exact List.Pairwise.nil
  | cons e h ih =>
      cases e with
      | start r =>
          refine List.pairwise_cons.mpr ⟨?_, ih⟩
          intro y hy hflying
          show y.age ≤ age r.id h
          rw [age_of_inFlight (of_decide_eq_false hflying)]
          exact age_of_mem_lives y hy
      | _ => exact ih

/-- Of what meets one of two conditions, that which meets the first comes first. -/
theorem filter_or_of_pairwise {α : Type} {p q : α → Bool} {l : List α}
    (hne : ∀ x ∈ l, q x = true → p x = false)
    (hord : l.Pairwise fun x y => q x = true → p y = false) :
    l.filter (fun x => p x || q x) = l.filter p ++ l.filter q := by
  induction l with
  | nil => rfl
  | cons x l ih =>
      obtain ⟨hx, hl⟩ := List.pairwise_cons.mp hord
      have hrest := ih (fun y hy => hne y (List.mem_cons_of_mem _ hy)) hl
      cases hq : q x with
      -- From here on nothing meets the first condition.
      | true =>
          have hp : p x = false := hne x List.mem_cons_self hq
          have hnone : l.filter p = [] := List.filter_eq_nil_iff.mpr fun y hy => by simp [hx y hy hq]
          rw [hnone] at hrest
          simp [hp, hq, hrest, hnone]
      | false => cases hp : p x <;> simp [hp, hq, hrest]

/-- Those that are awaited are taken from the lives before, by conditions on what becomes of them; this is
the form in which `young_concat` and `hung_concat` need it. -/
theorem filter_awaited (d : Duration) (h : List LifeEvent) (e : LifeEvent) (f : Life → Bool) :
    (awaited d h e).filter f =
      ((lives h).filter fun x => x.isYoung d && !(x.next e).isOver && f (x.next e)).map (Life.next e) ++
        (newborn e).filter f := by
  unfold awaited young
  rw [List.filter_append, List.filter_filter, List.filter_map, List.filter_filter]
  congr 3
  funext x
  simp only [Function.comp_apply]
  rw [Bool.and_comm, Bool.and_assoc, Bool.and_comm (f _)]

theorem awaited_subset (d : Duration) (h : List LifeEvent) (e : LifeEvent) :
    awaited d h e ⊆ lives (h ++ [e]) := by
  intro x hx
  rw [lives_concat]
  rcases List.mem_append.mp hx with hx | hx
  · obtain ⟨y, hy, rfl⟩ := List.mem_map.mp (List.mem_of_mem_filter hx)
    exact List.mem_append_left _ (List.mem_map_of_mem (List.mem_of_mem_filter hy))
  · exact List.mem_append_right _ hx

/-- **Who is young afterwards**: those that are awaited, except for the ones that come to the age `d`. -/
theorem young_concat (d : Duration) (h : List LifeEvent) (e : LifeEvent) :
    young d (h ++ [e]) = (awaited d h e).filter (!·.reached d) := by
  rw [filter_awaited]
  unfold young
  rw [lives_concat, List.filter_append, List.filter_map]
  congr 1
  · congr 2
    funext x
    exact Life.isYoung_next d e x
  · cases e <;> simp [newborn, Life.isYoung, List.filter_cons]

/-- **Who has hung afterwards**: those that have hung before, and after them the ones that come to the age
`d` now. -/
theorem hung_concat (d : Duration) (h : List LifeEvent) (e : LifeEvent) :
    hung d (h ++ [e]) =
      hung d h ++ ((awaited d h e).filter (·.reached d)).map (·.request) := by
  have hsplit : (lives h).filter (fun x => (x.next e).reached d) =
      (lives h).filter (·.reached d) ++ (lives h).filter fun x =>
        x.isYoung d && !(x.next e).isOver && (x.next e).reached d := by
    rw [← filter_or_of_pairwise]
    · exact List.filter_congr fun x _ => Life.reached_next d e x
    · intro x _ hx
      simp [Life.isYoung] at hx
      exact hx.1.1.2
    -- Those that come to the age `d` only now were started after those that came to it before.
    · refine (pairwise_lives h).imp ?_
      intro x y hxy hx
      simp [Life.isYoung, Life.reached] at hx ⊢
      have hle := hxy hx.1.1.1
      omega
  unfold hung
  rw [filter_awaited, lives_concat, List.filter_append, List.filter_map, List.map_append,
    List.map_append, List.map_map, List.map_map]
  show List.map _ ((lives h).filter fun x => (x.next e).reached d) ++ _ = _
  rw [hsplit, List.map_append]
  simp [Function.comp_def]

/-! ### Each thing that may happen -/

theorem inFlight_of_mem_young {d : Duration} {h : List LifeEvent} :
    ∀ x ∈ young d h, x.isOver = false ∧ x.reached d = false := by
  intro x hx
  have hyoung := (List.mem_filter.mp hx).2
  simp only [Life.isYoung, Bool.and_eq_true, Bool.not_eq_true'] at hyoung
  exact hyoung

/-- Besides those in flight, the new request is awaited, as the last. -/
theorem awaited_start (d : Duration) (h : List LifeEvent) (r : Request) :
    awaited d h (.start r) = young d h ++ [⟨r, 0, false⟩] := by
  have hmap : (young d h).map (Life.next (.start r)) = young d h := List.map_id _
  have hflying : (young d h).filter (!·.isOver) = young d h :=
    List.filter_eq_self.mpr fun x hx => by simp [(inFlight_of_mem_young x hx).1]
  unfold awaited
  rw [hmap, hflying]
  rfl

/-- The stopped request is awaited no longer. It may be that several were started with its identifier;
then all of them are stopped. -/
theorem awaited_stop (d : Duration) (h : List LifeEvent) (id : RequestId) :
    awaited d h (.stop id) = (young d h).filter (·.request.id ≠ id) := by
  unfold awaited
  rw [List.filter_map]
  show ((young d h).filter _).map (Life.next (.stop id)) ++ [] = _
  rw [List.append_nil]
  have hflying : (young d h).filter ((!·.isOver) ∘ Life.next (.stop id)) =
      (young d h).filter (·.request.id ≠ id) := by
    refine List.filter_congr fun x hx => ?_
    have hover := (inFlight_of_mem_young x hx).1
    by_cases hid : x.request.id = id <;> simp [Life.next, hid, hover]
  rw [hflying]
  refine (List.map_congr_left fun x hx => ?_).trans (List.map_id _)
  exact if_neg (of_decide_eq_true (List.mem_filter.mp hx).2)

/-- All of those in flight grow older by the same time. -/
theorem awaited_pass (d : Duration) (h : List LifeEvent) (p : Duration) :
    awaited d h (.pass p) =
      (young d h).map fun x => { x with age := x.age + p.nanoseconds } := by
  have hmap : (young d h).map (Life.next (.pass p)) =
      (young d h).map fun x => { x with age := x.age + p.nanoseconds } :=
    List.map_congr_left fun x hx => by simp [Life.next, (inFlight_of_mem_young x hx).1]
  unfold awaited
  rw [hmap, List.filter_eq_self.mpr]
  · exact List.append_nil _
  · intro x hx
    obtain ⟨y, hy, rfl⟩ := List.mem_map.mp hx
    simp [(inFlight_of_mem_young y hy).1]

/-- With something to be waited for, a request is young when it starts. -/
theorem young_start {d : Duration} (hpos : 0 < d.nanoseconds) (h : List LifeEvent) (r : Request) :
    young d (h ++ [.start r]) = young d h ++ [⟨r, 0, false⟩] := by
  rw [young_concat, awaited_start]
  refine List.filter_eq_self.mpr fun x hx => ?_
  rcases List.mem_append.mp hx with hx | hx
  · simp [(inFlight_of_mem_young x hx).2]
  · rw [List.mem_singleton.mp hx]
    simpa [Life.reached] using Nat.ne_of_gt hpos

/-- Nothing but time makes a request hung. -/
theorem hung_stop (d : Duration) (h : List LifeEvent) (id : RequestId) :
    hung d (h ++ [.stop id]) = hung d h := by
  have hnone : ((young d h).filter (·.request.id ≠ id)).filter (·.reached d) = [] := by
    refine List.filter_eq_nil_iff.mpr fun x hx => ?_
    simp [(inFlight_of_mem_young x (List.mem_of_mem_filter hx)).2]
  rw [hung_concat, awaited_stop, hnone]
  exact List.append_nil _

theorem young_stop (d : Duration) (h : List LifeEvent) (id : RequestId) :
    young d (h ++ [.stop id]) = (young d h).filter (·.request.id ≠ id) := by
  rw [young_concat, awaited_stop]
  refine List.filter_eq_self.mpr fun x hx => ?_
  simp [(inFlight_of_mem_young x (List.mem_of_mem_filter hx)).2]

/-! ### What becomes of a request after its start -/

/-- At its start a history falls into what came before and the life that begins; the requests from before
live through the rest as well. -/
theorem lives_split (before : List LifeEvent) (r : Request) (after : List LifeEvent) :
    ∃ xs, xs.map (·.request) = starts before ∧
      lives (before ++ .start r :: after) = xs ++ life r after :: lives after := by
  induction before with
  | nil => exact ⟨[], rfl, rfl⟩
  | cons e before ih =>
      obtain ⟨xs, hxs, hlives⟩ := ih
      cases e with
      | start r' =>
          refine ⟨life r' (before ++ .start r :: after) :: xs, congrArg (r' :: ·) hxs, ?_⟩
          exact congrArg (life r' (before ++ .start r :: after) :: ·) hlives
      -- Before the start, nothing but another start begins a life.
      | _ => exact ⟨xs, hxs, hlives⟩

/-- Every life has begun with a start, and what has become of it depends on the rest of the history alone.
-/
theorem mem_lives_iff {x : Life} {h : List LifeEvent} :
    x ∈ lives h ↔ ∃ before r after, h = before ++ .start r :: after ∧ x = life r after := by
  constructor
  · intro hx
    induction h with
    | nil => cases hx
    | cons e h ih =>
        cases e with
        | start r =>
            rcases List.mem_cons.mp hx with rfl | hx
            · exact ⟨[], r, h, rfl, rfl⟩
            · obtain ⟨before, r', after, rfl, rfl⟩ := ih hx
              exact ⟨.start r :: before, r', after, rfl, rfl⟩
        | stop id =>
            obtain ⟨before, r', after, rfl, rfl⟩ := ih hx
            exact ⟨.stop id :: before, r', after, rfl, rfl⟩
        | pass d =>
            obtain ⟨before, r', after, rfl, rfl⟩ := ih hx
            exact ⟨.pass d :: before, r', after, rfl, rfl⟩
  · rintro ⟨before, r, after, rfl, rfl⟩
    obtain ⟨xs, -, hlives⟩ := lives_split before r after
    rw [hlives]
    exact List.mem_append_right _ List.mem_cons_self

/-- Something is told of each request that has hung. Of a given request it is told once if the request
lasts, in its place among the others, and else not. -/
theorem hung_split {β : Type} {f : Request → β} {d : Duration} {h : List LifeEvent} {told : List β}
    (htold : told = (hung d h).map f) {before : List LifeEvent} {r : Request} {after : List LifeEvent}
    (hsplit : h = before ++ .start r :: after) :
    ∃ earlier later, earlier.Sublist (starts before) ∧ later.Sublist (starts after) ∧
      (Lasts d r.id after → told = (earlier ++ r :: later).map f) ∧
      (¬ Lasts d r.id after → told = (earlier ++ later).map f) := by
  obtain ⟨xs, hxs, hlives⟩ := lives_split before r after
  refine ⟨(xs.filter (·.reached d)).map (·.request), hung d after, ?_, ?_, ?_, ?_⟩
  · rw [← hxs]
    exact List.filter_sublist.map _
  · rw [← map_request_lives]
    exact List.filter_sublist.map _
  · intro hlasts
    unfold hung at htold ⊢
    rw [htold, hsplit, hlives]
    simp [Life.reached, life, lasts_iff.mp hlasts]
  · intro hlasts
    unfold hung at htold ⊢
    rw [htold, hsplit, hlives]
    simp [Life.reached, life, mt lasts_iff.mpr hlasts]

/-- Those in flight that are younger than `d` have been started and not been stopped since, less than
`d` ago. -/
theorem mem_ids_young_iff {d : Duration} {id : RequestId} {h : List LifeEvent} :
    id ∈ (young d h).map (·.request.id) ↔ InFlight d id h := by
  have hyoung (r : Request) (after : List LifeEvent) : (life r after).isYoung d = true ↔
      .stop r.id ∉ after ∧ elapsed after < d.nanoseconds := by
    unfold Life.isYoung Life.reached
    rw [Bool.and_eq_true, Bool.not_eq_true', Bool.not_eq_true', decide_eq_false_iff_not, Nat.not_le]
    show decide (.stop r.id ∈ after) = false ∧ age r.id after < d.nanoseconds ↔ _
    rw [decide_eq_false_iff_not]
    refine and_congr_right fun hstop => ?_
    rw [age_of_inFlight hstop]
  constructor
  · intro hid
    obtain ⟨x, hx, rfl⟩ := List.mem_map.mp hid
    obtain ⟨hx, hflying⟩ := List.mem_filter.mp hx
    obtain ⟨before, r, after, rfl, rfl⟩ := mem_lives_iff.mp hx
    exact ⟨before, r, after, rfl, rfl, (hyoung r after).mp hflying⟩
  · rintro ⟨before, r, after, rfl, rfl, hflying⟩
    have hmem := mem_lives_iff.mpr ⟨before, r, after, rfl, rfl⟩
    exact List.mem_map_of_mem (List.mem_filter.mpr ⟨hmem, (hyoung r after).mpr hflying⟩)

theorem starts_append (g h : List LifeEvent) : starts (g ++ h) = starts g ++ starts h := by
  induction g with
  | nil => rfl
  | cons e g ih =>
      cases e with
      | start r => exact congrArg (r :: ·) ih
      | _ => exact ih

/-- Who came to an age came to all lesser ages before. -/
theorem hung_subset {d d' : Duration} (hle : d.nanoseconds ≤ d'.nanoseconds) (h : List LifeEvent) :
    hung d' h ⊆ hung d h := by
  intro r hr
  obtain ⟨x, hx, rfl⟩ := List.mem_map.mp hr
  obtain ⟨hmem, hreached⟩ := List.mem_filter.mp hx
  refine List.mem_map_of_mem (List.mem_filter.mpr ⟨hmem, ?_⟩)
  exact decide_eq_true (Nat.le_trans hle (of_decide_eq_true hreached))

/-- Who is younger than an age is younger than all greater ages. -/
theorem young_subset {d d' : Duration} (hle : d.nanoseconds ≤ d'.nanoseconds) (h : List LifeEvent) :
    young d h ⊆ young d' h := by
  intro x hx
  obtain ⟨hover, hyoung⟩ := inFlight_of_mem_young x hx
  refine List.mem_filter.mpr ⟨List.mem_of_mem_filter hx, ?_⟩
  have hlt : x.age < d.nanoseconds := Nat.lt_of_not_le (of_decide_eq_false hyoung)
  have hyoung' : x.reached d' = false := decide_eq_false (by omega)
  simp [Life.isYoung, hover, hyoung']

theorem nodup_lives {h : List LifeEvent} (hids : ((starts h).map (·.id)).Nodup) :
    ((lives h).map (·.request.id)).Nodup := by
  rw [← map_request_lives, List.map_map] at hids
  exact hids

/-- Requests with different identifiers are told apart by them. -/
theorem lives_inj {h : List LifeEvent} (hids : ((starts h).map (·.id)).Nodup) {x y : Life}
    (hx : x ∈ lives h) (hy : y ∈ lives h) (hid : x.request.id = y.request.id) : x = y :=
  List.inj_on_of_nodup_map (nodup_lives hids) hx hy hid

end Lifetime
end FailureAlarm
