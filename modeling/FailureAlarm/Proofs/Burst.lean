import FailureAlarm.Proofs.Look
import FailureAlarm.Proofs.Threshold
import FailureAlarm.Proofs.Window

/-!
# Bursts of failures

In a burst failures come so fast that none of them leaves the window before the burst is over
(`Burst`). Failures from before the burst may do so at any point, which is why a burst on its own is not
simply counted off in groups as large as the threshold: the first group may be filled up by such older
failures, more or fewer of them.

So the failures in the store are told apart, those from before the burst and those of the burst. Between
two crossings the latter only grow, and the sum

    failures of the burst in the store + threshold * crossings

counts the failures of the burst, and besides them only the older ones that went into the first page
(`count_burst`). The store stays below the threshold, which makes this a division with remainder.
-/

namespace FailureAlarm
namespace Alarm

/-! ### Looks of a run -/

/-- The looks that the calls of a run take, as long as the store can be used. -/
def looks (ops : List Op) : List Look := ops.filterMap Op.look?

/-- The failures that the calls of a run record, as long as the store can be used. -/
def reports (ops : List Op) : Nat := (looks ops).countP (·.failure?.isSome)

/-- How many of these steps crossed the threshold. -/
def crossed (rs : List (Reply × Effects)) : Nat := rs.countP fun r => decide r.1.Crosses

/-- A burst: the clock does not fail, and each failure is in the window of the call that records it and
of all calls after that, in whatever order the readings are. -/
structure Burst (a : Alarm) (ops : List Op) : Prop where
  unbroken : ∀ op ∈ ops, op.breaks = false
  inside : ∀ l ∈ looks ops, l.failure?.isSome → a.cutoff l.now < l.now
  stays : (looks ops).Pairwise fun l m => l.failure?.isSome → a.cutoff m.now < l.now

theorem Burst.of_sublist {a : Alarm} {xs ys : List Op} (h : a.Burst ys) (hsub : xs.Sublist ys) :
    a.Burst xs := by
  have hlooks : (looks xs).Sublist (looks ys) := hsub.filterMap _
  exact ⟨fun op hop => h.unbroken op (hsub.subset hop),
    fun l hl => h.inside l (hlooks.subset hl), h.stays.sublist hlooks⟩

theorem open_run {a : Alarm} {s : State} {ops : List Op} (hs : s.poisoned = false)
    (h : ∀ op ∈ ops, op.breaks = false) : (a.run s ops).1.poisoned = false := by
  induction ops generalizing s with
  | nil => exact hs
  | cons op ops ih =>
      apply ih (s := (a.step s op).1)
      · rw [poisoned_step, hs, h op List.mem_cons_self]
        rfl
      · exact fun op' hop' => h op' (List.mem_cons_of_mem _ hop')

theorem after_append (a : Alarm) (xs ys : List Op) :
    a.after (xs ++ ys) = (a.run (a.after xs) ys).1 := by
  unfold after
  rw [run_append]

/-! ### Counting -/

/-- The failures in the window, if all that came after the first ones are in it. -/
theorem inWindow_append_of_inside {a : Alarm} {now : Instant} {old new : List Failure}
    (h : ∀ f ∈ new, a.cutoff now < f.time) :
    a.inWindow now (old ++ new) = a.inWindow now old ++ new := by
  have hnew : a.inWindow now new = new :=
    List.filter_eq_self.mpr fun f hf => decide_eq_true (h f hf)
  unfold inWindow at hnew ⊢
  rw [List.filter_append, hnew]

/-- A look in a burst. If it crosses the threshold, the page is over the older failures that are still in
the window, all those of the burst in the store, and the one that it brings; these are as many as the
threshold. Otherwise only older failures leave the store. -/
theorem look_in_burst {a : Alarm} {k : Nat} (hk : a.policy.threshold = k) (hpos : 1 ≤ k) {s : State}
    (hopen : s.poisoned = false) (hbelow : a.Below s.store.size) {old new : List Failure}
    (hstore : s.store.failures = old ++ new) {op : Op} {l : Look} (hl : op.look? = some l)
    (hnew : ∀ f ∈ new ++ l.failure?.toList, a.cutoff l.now < f.time) :
    ((a.step s op).2.1.Crosses ∧ (a.step s op).1.store.failures = [] ∧
        (a.inWindow l.now old).length + (new ++ l.failure?.toList).length = k) ∨
      (¬ (a.step s op).2.1.Crosses ∧ (a.step s op).1.store.failures =
        a.inWindow l.now old ++ (new ++ l.failure?.toList)) := by
  obtain ⟨e, he, hlook⟩ := shown_of_look (a := a) hopen hl
  obtain ⟨hnow, hfailure⟩ := Look.mk.inj hlook
  have hstep := happens_of_shown he
  have hkept : a.kept s.store.failures e = a.inWindow l.now old ++ (new ++ l.failure?.toList) := by
    show a.inWindow e.now (s.store.failures ++ e.failure?.toList) = _
    rw [hnow, hfailure, hstore, List.append_assoc, inWindow_append_of_inside hnew]
  rw [crosses_iff_of_shown he, hstep.store]
  cases hcross : e.isCrossing with
  | false =>
      right
      rw [left_of_not_crossing hcross, hkept]
      exact ⟨Bool.false_ne_true, rfl⟩
  | true =>
      left
      have hfits := hstep.fits
      unfold Fits at hfits
      rw [hcross, eq_comm, Bool.and_eq_true, hfailure] at hfits
      obtain ⟨f, hf⟩ := Option.isSome_iff_exists.mp hfits.1
      -- The threshold is reached by one failure more than what was below it.
      have hlength : ((a.kept s.store.failures e).length : Int) = a.policy.threshold := by
        have hreached := hfits.2
        unfold kept at hreached ⊢
        rw [hfailure, hf] at hreached ⊢
        exact length_of_reached hreached hbelow (by omega)
      rw [hkept, hk, List.length_append] at hlength
      exact ⟨rfl, left_of_crossing hcross _, by omega⟩

theorem looks_cons {op : Op} {l : Look} (h : op.look? = some l) (ops : List Op) :
    looks (op :: ops) = l :: looks ops := List.filterMap_cons_some h

theorem reports_cons {op : Op} {l : Look} (h : op.look? = some l) (ops : List Op) :
    reports (op :: ops) = l.failure?.toList.length + reports ops := by
  unfold reports
  rw [looks_cons h, List.countP_cons]
  cases l.failure? <;> simp [Nat.add_comm]

/-- **The failures of a burst, counted.** The store holds failures from before the burst and then those
of the burst. Together with as many as the threshold for each crossing, the latter are all failures
that the burst has brought, and those older ones that were spent on its first page. -/
theorem count_burst {a : Alarm} {k : Nat} (hk : a.policy.threshold = k) (hpos : 1 ≤ k)
    {ops : List Op} (hburst : a.Burst ops) {s : State} (hopen : s.poisoned = false)
    (hbelow : a.Below s.store.size) {old new : List Failure}
    (hstore : s.store.failures = old ++ new)
    (hnew : ∀ f ∈ new, ∀ l ∈ looks ops, a.cutoff l.now < f.time) :
    ∃ old' new' spent, (a.run s ops).1.store.failures = old' ++ new' ∧
      new.length + reports ops + spent = k * crossed (a.run s ops).2 + new'.length ∧
      spent + old'.length ≤ old.length := by
  induction ops generalizing s old new with
  | nil => exact ⟨old, new, 0, hstore, by simp [reports, looks, crossed, run], by omega⟩
  | cons op ops ih =>
      have hrest : a.Burst ops := hburst.of_sublist (List.sublist_cons_self _ _)
      have hopen' : (a.step s op).1.poisoned = false := by
        rw [poisoned_step, hopen, hburst.unbroken op List.mem_cons_self]
        rfl
      have hbelow' := a.below_step hbelow op
      have hcrossed : crossed (a.run s (op :: ops)).2 =
          crossed (a.run (a.step s op).1 ops).2 +
            if (a.step s op).2.1.Crosses then 1 else 0 := by
        show crossed ((a.step s op).2 :: (a.run (a.step s op).1 ops).2) = _
        unfold crossed
        rw [List.countP_cons]
        simp only [decide_eq_true_eq]
      show ∃ old' new' spent, (a.run (a.step s op).1 ops).1.store.failures = old' ++ new' ∧ _
      rw [hcrossed]
      cases hl : op.look? with
      | none =>
          have hlooks : looks (op :: ops) = looks ops := List.filterMap_cons_none hl
          have hnone : Event.shown? op (a.step s op).2.1 = none := shown_eq_none (Or.inl hl)
          have hreports : reports (op :: ops) = reports ops := by
            unfold reports
            rw [hlooks]
          rw [hlooks] at hnew
          rw [hreports, if_neg (not_crosses_of_shown hnone), Nat.add_zero]
          apply ih hrest hopen' hbelow' _ hnew
          rw [(uneventful_of_shown hnone).store]
          exact hstore
      | some l =>
          have hpairs := hburst.stays
          rw [looks_cons hl, List.pairwise_cons] at hpairs
          rw [looks_cons hl] at hnew
          -- The failure that comes stays in the window as well, now and in all later calls.
          have hjoined : ∀ f ∈ new ++ l.failure?.toList,
              ∀ m ∈ l :: looks ops, a.cutoff m.now < f.time := by
            intro f hf m hm
            rcases List.mem_append.mp hf with hf | hf
            · exact hnew f hf m hm
            · have hsome := Option.mem_toList.mp hf
              rw [time_of_look hl f hsome]
              have hreport : l.failure?.isSome = true := Option.isSome_iff_exists.mpr ⟨f, hsome⟩
              rcases List.mem_cons.mp hm with rfl | hm
              · exact hburst.inside m (by rw [looks_cons hl]; exact List.mem_cons_self) hreport
              · exact hpairs.1 m hm hreport
          have hwindow : (a.inWindow l.now old).length ≤ old.length := List.length_filter_le _ _
          rw [reports_cons hl]
          rcases look_in_burst hk hpos hopen hbelow hstore hl
              (fun f hf => hjoined f hf l List.mem_cons_self) with
            ⟨hcross, hempty, hlength⟩ | ⟨hcross, hleft⟩
          · have hstart : (a.step s op).1.store.failures = [] ++ [] := hempty
            obtain ⟨old', new', spent, hstore', hcount, hspent⟩ :=
              ih hrest hopen' hbelow' hstart (fun f hf => by cases hf)
            rw [List.length_append] at hlength
            rw [List.length_nil] at hcount hspent
            refine ⟨old', new', (a.inWindow l.now old).length, hstore', ?_, by omega⟩
            rw [if_pos hcross, Nat.mul_add, Nat.mul_one]
            omega
          · obtain ⟨old', new', spent, hstore', hcount, hspent⟩ :=
              ih hrest hopen' hbelow' hleft
                (fun f hf m hm => hjoined f hf m (List.mem_cons_of_mem _ hm))
            rw [List.length_append] at hcount
            refine ⟨old', new', spent, hstore', ?_, by omega⟩
            rw [if_neg hcross, Nat.add_zero]
            omega

/-! ### The whole -/

/-- A page of an alarm is over exactly as many failures as the threshold. -/
theorem page_of_crosses {a : Alarm} {k : Nat} (hk : a.policy.threshold = k) (hpos : 1 ≤ k) {s : State}
    (hbelow : a.Below s.store.size) {ops : List Op} {r : Reply × Effects} (hr : r ∈ (a.run s ops).2)
    (hcross : r.1.Crosses) :
    ∃ number batch, r.2.pages = [(number, a.page batch)] ∧ batch.length = k := by
  induction ops generalizing s with
  | nil => cases hr
  | cons op ops ih =>
      change r ∈ (a.step s op).2 :: (a.run (a.step s op).1 ops).2 at hr
      rcases List.mem_cons.mp hr with rfl | hr
      · obtain ⟨now, p, -, hc⟩ := crossing_of_crosses hcross
        have hlength := length_of_crossing hc hbelow (by omega)
        exact ⟨_, _, hc.pages, by omega⟩
      · exact ih (a.below_step hbelow op) hr

/-- A burst that brings as many failures as the threshold is paged. -/
theorem exists_crossing {a : Alarm} {k : Nat} (hk : a.policy.threshold = k) (hpos : 1 ≤ k)
    {ops burst : List Op} (hopen : (a.after ops).poisoned = false) (hburst : a.Burst burst)
    (hmany : k ≤ reports burst) : ∃ r ∈ (a.run (a.after ops) burst).2, r.1.Crosses := by
  obtain ⟨old', new', spent, hstore, hcount, -⟩ := count_burst hk hpos hburst hopen
    (a.below_after ops) (List.append_nil _).symm (fun f hf => by cases hf)
  have hbelow := a.below_after (ops ++ burst)
  rw [after_append] at hbelow
  unfold Below Store.size at hbelow
  rw [hstore, List.length_append, hk] at hbelow
  rw [List.length_nil] at hcount
  have hcrossed : 0 < crossed (a.run (a.after ops) burst).2 := by
    by_contra hzero
    have hnone : crossed (a.run (a.after ops) burst).2 = 0 := by omega
    rw [hnone, Nat.mul_zero] at hcount
    omega
  obtain ⟨r, hr, hcross⟩ := List.countP_pos_iff.mp hcrossed
  exact ⟨r, hr, of_decide_eq_true hcross⟩

/-- **No burst goes unpaged.** Let `n` failures come in a burst, while whatever else happens, after any
run that leaves the store in use. With a threshold of `k`, at least `n / k` of the calls cross it, each
page is over exactly `k` failures, and no part of the burst with `k` failures is without a crossing. If
the store was empty before, exactly `n / k` calls cross the threshold, and `n % k` failures remain. -/
theorem burst_is_paged (a : Alarm) {k : Nat} (hk : a.policy.threshold = k) (hpos : 1 ≤ k)
    (ops : List Op) (hopen : (a.after ops).poisoned = false) {burst : List Op}
    (hburst : a.Burst burst) :
    let n := reports burst
    let r := a.run (a.after ops) burst
    n / k ≤ crossed r.2 ∧
      (∀ x ∈ r.2, x.1.Crosses → ∃ number batch, x.2.pages = [(number, a.page batch)] ∧
        batch.length = k ∧ (a.page batch).alert.summary =
          s!"High LLM API Failure Rate: {k} failures in the last {a.policy.windowSeconds} seconds.") ∧
      (∀ before part rest, burst = before ++ part ++ rest → k ≤ reports part →
        ∃ x ∈ (a.run (a.after (ops ++ before)) part).2, x.1.Crosses) ∧
      ((a.after ops).store.failures = [] → crossed r.2 = n / k ∧ r.1.store.size = n % k) := by
  intro n r
  obtain ⟨old', new', spent, hstore, hcount, hspent⟩ := count_burst hk hpos hburst hopen
    (a.below_after ops) (List.append_nil _).symm (fun f hf => by cases hf)
  rw [List.length_nil, Nat.zero_add] at hcount
  have hbelow := a.below_after (ops ++ burst)
  rw [after_append] at hbelow
  unfold Below Store.size at hbelow
  rw [hstore, List.length_append, hk] at hbelow
  have hnew : new'.length < k := by omega
  refine ⟨?_, ?_, ?_, ?_⟩
  · have hlt : n < k * (crossed r.2 + 1) := by
      show reports burst < k * (crossed (a.run (a.after ops) burst).2 + 1)
      rw [Nat.mul_add, Nat.mul_one]
      omega
    exact Nat.lt_succ_iff.mp (Nat.div_lt_of_lt_mul hlt)
  · intro x hx hcross
    obtain ⟨number, batch, hpages, hlength⟩ :=
      page_of_crosses hk hpos (a.below_after ops) hx hcross
    exact ⟨number, batch, hpages, hlength, congrArg a.message hlength⟩
  · intro before part rest hparts hmany
    have hbefore : before.Sublist burst := by
      rw [hparts, List.append_assoc]
      exact List.sublist_append_left _ _
    have hpart : part.Sublist burst := by
      rw [hparts]
      exact (List.sublist_append_right _ _).trans (List.sublist_append_left _ _)
    refine exists_crossing hk hpos ?_ (hburst.of_sublist hpart) hmany
    rw [after_append]
    exact open_run hopen (hburst.of_sublist hbefore).unbroken
  · intro hempty
    -- No older failures were there to be spent or to be left.
    rw [hempty, List.length_nil] at hspent
    have hold : old' = [] := List.length_eq_zero_iff.mp (by omega)
    have hn : n = new'.length + k * crossed r.2 := by
      show reports burst = new'.length + k * crossed (a.run (a.after ops) burst).2
      omega
    have hsize : r.1.store.size = new'.length := by
      unfold Store.size
      rw [hstore, hold]
      rfl
    rw [hsize, hn, Nat.add_mul_div_left _ _ hpos, Nat.add_mul_mod_self_left, Nat.div_eq_of_lt hnew,
      Nat.mod_eq_of_lt hnew, Nat.zero_add]
    exact ⟨rfl, rfl⟩

/-- Failures at seconds 50, 70, 65 and 95, and a count between them, while a page is refused. -/
def slowBurst : List Op := [
  .record (some (second 50)) ⟨some {}⟩, .retained (some (second 55)),
  .record (some (second 70)) ⟨some {}⟩, .record (some (second 65)) ⟨some {}⟩,
  .complete 0 (.error (.http "refused")), .record (some (second 95)) ⟨some {}⟩]

/-- The failure of second 0 leaves the window during the burst, so the page is over the first three
failures of the burst. -/
theorem burst_is_paged_after_an_older_failure :
    let ops : List Op := [.record (some (second 0)) ⟨some {}⟩]
    ((perMinute 3).after ops).poisoned = false ∧ (perMinute 3).Burst slowBurst ∧
      reports slowBurst = 4 ∧ 1 ≤ crossed ((perMinute 3).run ((perMinute 3).after ops) slowBurst).2 := by
  intro ops
  have hopen : ((perMinute 3).after ops).poisoned = false := by decide
  have hburst : (perMinute 3).Burst slowBurst := ⟨by decide, by decide, by decide⟩
  have hreports : reports slowBurst = 4 := by decide
  have hpaged := (burst_is_paged (perMinute 3) (k := 3) rfl (by decide) ops hopen hburst).1
  rw [hreports] at hpaged
  exact ⟨hopen, hburst, hreports, hpaged⟩

end Alarm
end FailureAlarm
