import FailureAlarm.Proofs.Secrecy
import FailureAlarm.Service.Start

/-!
# The routing key and the peer

The service posts its pages to a peer, and the peer is told the key with every page. If it replies alike
whatever the key is (`Peer.IgnoresKey`), then every exchange with it comes to the same with one key and
with another, redirections included (`Exchange.run_start`), and the transport of the service ignores the
key. What is known of alarms with such a transport holds for the service then (`sameButKey_posted`).

`routingKey_unseen` is the result, for any transport and for the one of the service.
-/

namespace FailureAlarm
namespace Http

/-- The requests are the same, or they send the same page with one key and with another. -/
inductive Request.SameButKey : Request → Request → Prop
  | same (r : Request) : SameButKey r r
  | page (p : Page) (target : List Char) (key key' : String) :
      SameButKey { (p.keyed key).request with target } { (p.keyed key').request with target }

/-- The peer replies alike, whatever the keys are in the pages that it is sent. The states that it comes
to may differ, as long as they are related. -/
structure Peer.IgnoresKey {σ : Type} (peer : Peer σ) (R : σ → σ → Prop) : Prop where
  reply : ∀ {x x'}, R x x' → ∀ {r r' : Request}, r.SameButKey r' →
    (peer.reply x' r').1 = (peer.reply x r).1
  next : ∀ {x x'}, R x x' → ∀ {r r' : Request}, r.SameButKey r' →
    R (peer.reply x r).2 (peer.reply x' r').2

/-- A rehearsed peer keeps the requests, and does not look at them. -/
theorem Rehearsed.ignoresKey (socket : Nat) :
    (peer socket).IgnoresKey (fun s s' => s'.coming = s.coming) where
  reply h _ _ _ := by
    simp only [peer, Rehearsed.reply, h]
    split <;> rfl
  next h _ _ _ := by
    simp only [peer, Rehearsed.reply, h]
    split <;> rfl

namespace Request.SameButKey

variable {r r' : Request}

theorem aimed (h : r.SameButKey r') (target : List Char) :
    Request.SameButKey { r with target } { r' with target } := by
  cases h with
  | same => exact .same _
  | page p _ key key' => exact .page p target key key'

/-- Either both are redirected or neither is. A redirection drops the body, or it sends the page again. -/
theorem redirected (h : r.SameButKey r') (status : Nat) :
    (r.redirected? status = none ∧ r'.redirected? status = none) ∨
      ∃ n n', r.redirected? status = some n ∧ r'.redirected? status = some n' ∧ n.SameButKey n' := by
  cases h with
  | same =>
      cases hr : r.redirected? status with
      | none => exact .inl ⟨rfl, rfl⟩
      | some n => exact .inr ⟨n, n, rfl, rfl, .same n⟩
  | page p target key key' =>
      unfold Request.redirected?
      split
      · exact .inr ⟨_, _, rfl, rfl, .same _⟩
      · split
        · exact .inr ⟨_, _, rfl, rfl, .page p target key key'⟩
        · exact .inl ⟨rfl, rfl⟩

end Request.SameButKey

variable {σ : Type} {peer : Peer σ} {R : σ → σ → Prop}

/-- Exchanges that begin with the same page, but for its key, come to the same last reply. -/
theorem Exchange.run_start (hp : peer.IgnoresKey R) (n : Nat) (u : Url) {r r' : Request}
    (hr : r.SameButKey r') {x x' : σ} (hx : R x x') :
    ((start n u r').run peer x').1 = ((start n u r).run peer x).1 ∧
      R ((start n u r).run peer x).2 ((start n u r').run peer x').2 := by
  induction n generalizing u r r' x x' with
  | zero => exact ⟨rfl, hx⟩
  | succ n ih =>
      unfold start run
      by_cases hat : peer.isAt u
      · rw [if_pos hat, if_pos hat]
        have hreply := hp.reply hx (hr.aimed u.target)
        have hnext := hp.next hx (hr.aimed u.target)
        generalize peer.reply x { r with target := u.target } = y at *
        generalize peer.reply x' { r' with target := u.target } = y' at *
        obtain ⟨reply, x⟩ := y
        obtain ⟨reply', x'⟩ := y'
        cases hreply
        cases reply with
        | none => exact ⟨rfl, hnext⟩
        | some reply =>
            dsimp only
            obtain ⟨hnone, hnone'⟩ | ⟨next, next', hsome, hsome', hsame⟩ := hr.redirected reply.status
            · rw [hnone, hnone']
              exact ⟨rfl, hnext⟩
            · rw [hsome, hsome']
              -- Where it leads to stands in the reply alone.
              cases reply.leadsTo? u with
              | none => exact ⟨rfl, hnext⟩
              | some link =>
                  cases link with
                  | page v => exact ih v hsame hnext
                  | elsewhere => exact ⟨rfl, hnext⟩
      · rw [if_neg hat, if_neg hat]
        exact ⟨rfl, hx⟩

end Http

variable {σ : Type} {peer : Http.Peer σ} {R : σ → σ → Prop}

/-- A page is posted with the one result, whatever its key is. -/
theorem Page.post_keyed (c : PagingConfig) (hp : peer.IgnoresKey R) (p : Page) (key key' : String)
    {x x' : σ} (hx : R x x') :
    ((p.keyed key').post c peer x').1 = ((p.keyed key).post c peer x).1 ∧
      R ((p.keyed key).post c peer x).2 ((p.keyed key').post c peer x').2 := by
  have hrun : (((p.keyed key').exchange c).run peer x').1 = (((p.keyed key).exchange c).run peer x).1 ∧
      R (((p.keyed key).exchange c).run peer x).2 (((p.keyed key').exchange c).run peer x').2 := by
    unfold exchange
    cases Http.Url.read? c.endpoint.toList with
    | none => exact ⟨rfl, hx⟩
    | some u =>
        by_cases htime : c.timeoutSeconds = 0
        · simp only [if_pos htime]
          exact ⟨rfl, hx⟩
        · simp only [if_neg htime]
          have hsame : (p.keyed key).request.SameButKey (p.keyed key').request := .page p [] key key'
          exact Http.Exchange.run_start hp _ u hsame hx
  simp only [post, hrun.1]
  exact ⟨trivial, hrun.2⟩

namespace Service

theorem deliver_postTransport (c : PagingConfig) (peer : Http.Peer σ) (x : σ) (number : Nat) (p : Page) :
    (postTransport c peer).deliver x number p =
      (.done (p.post c peer x).1, [sendingLog c], (p.post c peer x).2) := by
  unfold postTransport
  dsimp only

/-- The transport of the service ignores the key if the peer does that it posts to. -/
theorem ignoresKey_postTransport (c : PagingConfig) (hp : peer.IgnoresKey R) :
    (postTransport c peer).IgnoresKey R where
  delivery h number page key key' := by
    rw [deliver_postTransport, deliver_postTransport, (page.post_keyed c hp key key' h).1]
  log _ _ _ _ _ := by
    rw [deliver_postTransport, deliver_postTransport]
  next h number page key key' := by
    rw [deliver_postTransport, deliver_postTransport]
    dsimp only
    exact (page.post_keyed c hp key key' h).2

end Service

namespace Alarm

variable {τ : Type}

/-- Services that are made from the same settings, and post their pages to a peer that ignores the key, do
the same, except for the key on their pages. -/
theorem sameButKey_posted {settings : Settings} {k : RoutingKey} {showsMetrics : Bool} {s : Service}
    {log : List LogLine} (hmade : Service.ofSettings settings k showsMetrics = .ok (s, log))
    (k' : RoutingKey) (hp : peer.IgnoresKey R) {x x' : σ} (hx : R x x') (ops : List Op) :
    let t := Service.postTransport settings.paging peer
    List.Forall₂ (SameButKey k.text k'.text)
      (Line.trail s.alarm t ⟨{}, x⟩ ops) (Line.trail (s.alarm.keyed k') t ⟨{}, x'⟩ ops) := by
  intro t
  have hsame := s.alarm.sameButKey_trail k k' (Service.ignoresKey_postTransport settings.paging hp) hx ops
  rwa [keyed_of_ofSettings hmade] at hsame

/-- **The routing key shows up in pages only.** Two alarms with different keys, neither of them blank, do
the same in every run, as long as the results of the transport do not depend on the key. Their pages are
the same except for the member that is the key, and that is the text that was given.

So it is with two services that are made from the same settings. They log the same when they are made, and
the transport by which they post their pages asks nothing more than a peer that replies alike whatever the
key is. -/
theorem routingKey_unseen (a : Alarm) {t : Transport τ} {Q : τ → τ → Prop} (ht : t.IgnoresKey Q)
    {x x' : τ} (hx : Q x x') {key key' : String} (hkey : isBlankText key = false)
    (hkey' : isBlankText key' = false) :
    ∃ k k', RoutingKey.ofText key = .ok k ∧ RoutingKey.ofText key' = .ok k' ∧
      (∀ ops, List.Forall₂ (SameButKey key key') (Line.trail (a.keyed k) t ⟨{}, x⟩ ops)
        (Line.trail (a.keyed k') t ⟨{}, x'⟩ ops)) ∧
      ∀ settings shows s log, Service.ofSettings settings k shows = .ok (s, log) →
        Service.ofSettings settings k' shows = .ok ({ s with alarm := s.alarm.keyed k' }, log) ∧
        ∀ (σ : Type) (peer : Http.Peer σ) (R : σ → σ → Prop), peer.IgnoresKey R →
          ∀ y y', R y y' → ∀ ops, List.Forall₂ (SameButKey key key')
            (Line.trail s.alarm (Service.postTransport settings.paging peer) ⟨{}, y⟩ ops)
            (Line.trail (s.alarm.keyed k') (Service.postTransport settings.paging peer) ⟨{}, y'⟩ ops) := by
  refine ⟨⟨key, hkey⟩, ⟨key', hkey'⟩, dif_pos hkey, dif_pos hkey', ?_, ?_⟩
  · exact a.sameButKey_trail ⟨key, hkey⟩ ⟨key', hkey'⟩ ht hx
  · intro settings shows s log hmade
    refine ⟨?_, fun σ peer R hp y y' hy => sameButKey_posted hmade ⟨key', hkey'⟩ hp hy⟩
    rw [ofSettings_keyed settings ⟨key, hkey⟩ ⟨key', hkey'⟩ shows, hmade]
    rfl

/-- A failure, a page that is asked for, and a request that hangs; the first page is refused, by a transport
that follows a script and by a peer that does. The one key has blanks at both ends, and they stay. -/
theorem routingKey_unseen_of_padded_key :
    let script : Script := { coming := [.done (.error (.status 400 "Invalid key"))] }
    let ops : List Op := [
      .record (some (second 0)) ⟨some {}⟩, .dispatch "Disk full" [],
      .watch (Line.completion 0 none), .pass (.ofSeconds 2), .fire, .retained none]
    let settings : Settings := { paging := { endpoint := "http://127.0.0.1:8080/v2/enqueue" } }
    let t := Service.postTransport settings.paging (Http.Rehearsed.peer 8080)
    let refusing : Http.Rehearsed := { coming := [some { status := 400 }] }
    isBlankText " on-call\n" = false ∧ isBlankText "r-17" = false ∧
      ∃ k k', RoutingKey.ofText " on-call\n" = .ok k ∧ RoutingKey.ofText "r-17" = .ok k' ∧
        List.Forall₂ (SameButKey " on-call\n" "r-17")
          (Line.trail (Line.twoSeconds.keyed k) Script.transport ⟨{}, script⟩ ops)
          (Line.trail (Line.twoSeconds.keyed k') Script.transport ⟨{}, script⟩ ops) ∧
        ((Line.trail (Line.twoSeconds.keyed k) Script.transport ⟨{}, script⟩ ops).map
          (·.2.2.pages.length)) = [1, 1, 0, 0, 1, 0] ∧
        ∃ s log, Service.ofSettings settings k true = .ok (s, log) ∧
          List.Forall₂ (SameButKey " on-call\n" "r-17") (Line.trail s.alarm t ⟨{}, refusing⟩ ops)
            (Line.trail (s.alarm.keyed k') t ⟨{}, refusing⟩ ops) := by
  intro script ops settings t refusing
  have hkey : isBlankText " on-call\n" = false := by decide
  have hkey' : isBlankText "r-17" = false := by decide
  obtain ⟨k, k', hk, hk', hsame, hservice⟩ :=
    routingKey_unseen Line.twoSeconds Script.ignoresKey (Eq.refl script) hkey hkey'
  -- The key keeps its blanks: only a text of nothing but blanks is refused.
  have hvalue : k = ⟨" on-call\n", by decide⟩ := by
    obtain ⟨text, hblank⟩ := k
    cases RoutingKey.text_ofText hk
    rfl
  have hpages : (Line.trail (Line.twoSeconds.keyed k) Script.transport ⟨{}, script⟩ ops).map
      (·.2.2.pages.length) = [1, 1, 0, 0, 1, 0] := by
    rw [hvalue]
    decide
  refine ⟨hkey, hkey', k, k', hk, hk', hsame ops, hpages, ?_⟩
  cases hmade : Service.ofSettings settings k true with
  | error e => cases hmade
  | ok made =>
      obtain ⟨s, log⟩ := made
      obtain ⟨-, hposted⟩ := hservice settings true s log hmade
      have hsame := hposted _ _ _ (Http.Rehearsed.ignoresKey 8080) refusing refusing rfl ops
      exact ⟨s, log, rfl, hsame⟩

end Alarm
end FailureAlarm
