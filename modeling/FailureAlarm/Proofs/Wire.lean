import FailureAlarm.Proofs.AnyText
import FailureAlarm.Proofs.Encoding
import FailureAlarm.Proofs.Outcome
import FailureAlarm.Proofs.Posting

/-!
# A page on the wire is the page that was built

The pages of an alarm have plain details: each is a string or an array of strings
(`Dispatcher.Builds`). Such a page is sent in a single request, which says what the page says and is read
back as the page, whatever characters its texts have (`Http.Request.Carries`).

The peer is one that answers by itself (`Peer.answering`), with replies that lead nowhere else
(`Reply.IsFinal`), or not at all. What it answers is what the sending comes to (`Page.Tells`), and it is
asked once (`post_answering`). So over a whole run the peer is sent one request for each page that was
handed over, in their order (`transport_after`).
-/

namespace FailureAlarm

open Json (Value Decoder)
open Json.Decoder (field_read)
open Json.Value (KeysIncrease AreWhole MembersAreWhole itemsInOrder membersInOrder itemsHeight
  membersHeight)

/-! ### Plain details -/

/-- The value is a string or an array of strings. -/
inductive Json.Value.IsPlain : Value → Prop
  | string (s : String) : IsPlain (.string s)
  | strings (ss : List String) : IsPlain (.array (ss.map .string))

/-- Each key stands once, in order, for a string or an array of strings. -/
structure Details.ArePlain (details : Details) : Prop where
  keys : KeysIncrease details
  values : ∀ d ∈ details, d.2.IsPlain

namespace Json.Value.IsPlain

variable {v : Value}

theorem isWhole (h : v.IsPlain) : v.IsWhole := by
  cases h with
  | string s => trivial
  | strings ss =>
      show AreWhole (ss.map .string)
      induction ss with
      | nil => trivial
      | cons s ss ih => exact ⟨trivial, ih⟩

/-- Texts and lists of texts are not deep, so they are read again at any place of a page. -/
theorem height_le (h : v.IsPlain) : v.height ≤ 1 := by
  cases h with
  | string s => exact Nat.zero_le 1
  | strings ss =>
      have hitems : itemsHeight (ss.map .string) = 0 := by
        induction ss with
        | nil => rfl
        | cons s ss ih =>
            show max 0 (itemsHeight (ss.map .string)) = 0
            rw [ih]
            rfl
      rw [Value.height, hitems]

/-- There is nothing to be put in order. -/
theorem inOrder_eq (h : v.IsPlain) : v.inOrder = v := by
  cases h with
  | string s => rfl
  | strings ss =>
      have hitems : itemsInOrder (ss.map .string) = ss.map .string := by
        induction ss with
        | nil => rfl
        | cons s ss ih =>
            show Value.string s :: itemsInOrder (ss.map .string) = _
            rw [ih]
            rfl
      rw [Value.inOrder, hitems]

end Json.Value.IsPlain

namespace Details.ArePlain

variable {details : Details}

theorem areWhole (h : details.ArePlain) : MembersAreWhole details := by
  have hvalues := h.values
  clear h
  induction details with
  | nil => trivial
  | cons d ds ih =>
      obtain ⟨hd, hds⟩ := List.forall_mem_cons.mp hvalues
      exact ⟨hd.isWhole, ih hds⟩

theorem height_le (h : details.ArePlain) : membersHeight details ≤ 1 := by
  have hvalues := h.values
  clear h
  induction details with
  | nil => exact Nat.zero_le 1
  | cons d ds ih =>
      obtain ⟨hd, hds⟩ := List.forall_mem_cons.mp hvalues
      exact max_le hd.height_le (ih hds)

/-- The particulars come out in the order in which they were written: there are no objects among their
values to be sorted. -/
theorem inOrder_eq (h : details.ArePlain) : membersInOrder details = details := by
  have hvalues := h.values
  clear h
  induction details with
  | nil => rfl
  | cons d ds ih =>
      obtain ⟨hd, hds⟩ := List.forall_mem_cons.mp hvalues
      show (d.1, d.2.inOrder) :: membersInOrder ds = d :: ds
      rw [hd.inOrder_eq, ih hds]

/-- Plain details are read back as they are. -/
theorem map_tree (h : details.ArePlain) {depth : Nat} (hdepth : depth < 126) :
    Decoder.map depth (Value.object details).tree = .ok details := by
  have hnest : Decoder.mayNest depth = true := decide_eq_true (by omega)
  have hheight := h.height_le
  have hmembers := Decoder.anyMembers_trees details (depth + 1) (by omega)
  rw [h.inOrder_eq] at hmembers
  rw [Value.tree, Decoder.map, if_pos hnest, hmembers]
  show Except.ok (Value.sorted details) = _
  rw [Value.sorted_eq h.keys]

end Details.ArePlain

/-! ### Pages with plain details are read back -/

namespace Alert

theorem isWhole_toJson {a : Alert} (h : a.details.ArePlain) : a.toJson.IsWhole := by
  simp only [toJson, Value.IsWhole, MembersAreWhole, h.areWhole, and_self]

/-- An alert with plain particulars is read again, where it is not too deep inside of something. -/
theorem decoder_tree {a : Alert} (h : a.details.ArePlain) {depth : Nat} (hdepth : depth < 125) :
    decoder depth a.toJson.tree = .ok a := by
  have hseverity : Decoder.oneOf [("critical", Severity.critical)] (depth + 1)
      (Value.string "critical").tree = .ok a.severity := rfl
  unfold decoder toJson
  refine Decoder.record_of_written (by decide) (by omega) ?_
  exact .cons (field_read rfl) <| .cons (field_read hseverity) <| .cons (field_read rfl) <|
    .cons (field_read rfl) <| .cons (field_read (h.map_tree (by omega))) .nil

end Alert

namespace Page

variable {p : Page}

theorem isWhole_toJson (h : p.alert.details.ArePlain) : p.toJson.IsWhole := by
  simp only [toJson, Value.IsWhole, MembersAreWhole, Alert.isWhole_toJson h, and_self]

/-- **A page is read back from its body.** -/
theorem decoder_body (h : p.alert.details.ArePlain) : Json.decodeText decoder p.body = .ok p := by
  have haction : Decoder.oneOf [("trigger", PageAction.trigger)] 1
      (Value.string "trigger").tree = .ok p.action := rfl
  unfold body
  rw [Decoder.decodeText_text (isWhole_toJson h)]
  unfold decoder toJson
  refine Decoder.record_of_written (by decide) (by decide) ?_
  exact .cons (field_read (Alert.decoder_tree h (by decide))) <| .cons (field_read rfl) <|
    .cons (field_read haction) .nil

/-- What a page says, with the members of its objects in the order of their keys. -/
def inOrder (p : Page) : Value :=
  .object [
    ("event_action", .string "trigger"),
    ("payload", .object [
      ("component", .string p.alert.component),
      ("custom_details", .object p.alert.details),
      ("severity", .string "critical"),
      ("source", .string p.alert.source),
      ("summary", .string p.alert.summary)]),
    ("routing_key", .string p.routingKey)]

/-- The body of a page says just what the page says. -/
theorem any_body (h : p.alert.details.ArePlain) :
    Json.decodeText Decoder.any p.body = .ok p.inOrder := by
  have hheight : 0 + p.toJson.height ≤ 127 := by
    have hdetails := h.height_le
    simp only [toJson, Alert.toJson, Value.height, membersHeight]
    omega
  have horder : p.toJson.inOrder = p.inOrder := by
    simp only [toJson, Alert.toJson, Value.inOrder, membersInOrder, h.inOrder_eq,
      Value.sorted_eq h.keys, inOrder]
    rfl
  unfold body
  rw [Decoder.decodeText_text (isWhole_toJson h), Decoder.any_tree _ 0 hheight, horder]

end Page

/-! ### Requests and replies -/

/-- The request posts the page to this address. Its body is a JSON text that has the members of the page
and no others, and is read back as the page. -/
structure Http.Request.Carries (r : Http.Request) (u : Http.Url) (p : Page) : Prop where
  method : r.method = "POST"
  target : r.target = u.target
  contentType : r.contentType = some "application/json"
  body : ∃ text, Utf8.text? r.body = some text ∧
    Json.decodeText Decoder.any text = .ok p.inOrder ∧ Json.decodeText Page.decoder text = .ok p

/-- The request that sends the page to this address. -/
def Page.requestTo (p : Page) (u : Http.Url) : Http.Request := { p.request with target := u.target }

/-- The request that brings a page carries it: one POST, to the path of the endpoint, with the page for
its body. -/
theorem Page.carries_requestTo {p : Page} (h : p.alert.details.ArePlain) (u : Http.Url) :
    (p.requestTo u).Carries u p where
  method := rfl
  target := rfl
  contentType := rfl
  body := ⟨p.body, Utf8.text?_toUTF8 p.body, p.any_body h, p.decoder_body h⟩

/-- The reply does not lead to another page. -/
def Http.Reply.IsFinal (r : Http.Reply) : Prop :=
  r.location = none ∨ r.status ∉ [301, 302, 303, 307, 308]

/-- The peer at this address that answers each request by itself; its state are the requests so far. -/
def Http.Peer.answering (u : Http.Url) (answer : Http.Request → Option Http.Reply) :
    Http.Peer (List Http.Request) where
  secure := u.secure
  host := u.host
  socket := u.socket
  reply seen r := (answer r, seen ++ [r])

/-- What the sending of a page comes to when the peer has given this answer. -/
structure Page.Tells (answer : Option Http.Reply) (result : Except PagingError Unit) : Prop where
  ok_iff : result = .ok () ↔ ∃ reply, answer = some reply ∧ 200 ≤ reply.status ∧ reply.status ≤ 299
  status : ∀ reply, answer = some reply → ¬ (200 ≤ reply.status ∧ reply.status ≤ 299) →
    result = .error (.status reply.status ((reply.body.map markedText).getD ""))
  http : answer = none → ∃ reason, result = .error (.http reason)

/-- The verdict tells the final reply by its status, and nothing else of it decides. -/
theorem Page.tells_verdict (endpoint : String) (answer : Option Http.Reply) :
    Tells answer (verdict endpoint answer) := by
  cases answer with
  | none => exact ⟨by simp [verdict], by simp, fun _ => ⟨_, rfl⟩⟩
  | some reply =>
      have hsuccess : reply.isSuccess = true ↔ 200 ≤ reply.status ∧ reply.status ≤ 299 := by
        rw [Http.Reply.isSuccess, Bool.and_eq_true, decide_eq_true_iff, decide_eq_true_iff]
        omega
      constructor
      · simp [verdict, ← hsuccess]
      · rintro reply ⟨⟩ hstatus
        rw [verdict, if_neg (mt hsuccess.mp hstatus)]
      · rintro ⟨⟩

section

variable {c : PagingConfig} {u : Http.Url} {answer : Http.Request → Option Http.Reply}

/-- Nobody is sent elsewhere by a final reply. -/
theorem Http.Reply.IsFinal.stays {reply : Http.Reply} (h : reply.IsFinal) (r : Http.Request)
    (u : Http.Url) : r.redirected? reply.status = none ∨ reply.leadsTo? u = none := by
  rcases h with hlocation | hstatus
  · right
    rw [Http.Reply.leadsTo?, hlocation]
    rfl
  · left
    simp only [List.mem_cons, List.not_mem_nil, or_false, not_or] at hstatus
    obtain ⟨h1, h2, h3, h7, h8⟩ := hstatus
    rw [Http.Request.redirected?, if_neg (by simp [h1, h2, h3]), if_neg (by simp [h7, h8])]

/-- A final reply ends the exchange, and so does its absence. -/
theorem Http.Exchange.run_answering (hfinal : ∀ r reply, answer r = some reply → reply.IsFinal)
    (n : Nat) (u : Http.Url) (r : Http.Request) (seen : List Http.Request) :
    (start (n + 1) u r).run (.answering u answer) seen =
      (answer { r with target := u.target }, seen ++ [{ r with target := u.target }]) := by
  have hat : (Http.Peer.answering u answer).isAt u = true := by
    simp [Http.Peer.isAt, Http.Peer.answering]
  unfold start run
  rw [if_pos hat]
  dsimp only [Http.Peer.answering]
  cases hanswer : answer { r with target := u.target } with
  | none => rfl
  | some reply =>
      dsimp only
      rcases (hfinal _ _ hanswer).stays r u with hnone | hnone
      · rw [hnone]
        rfl
      · rw [hnone]
        cases r.redirected? reply.status <;> rfl

/-- **A page is sent once**, whatever is answered. -/
theorem Page.post_answering (hu : Http.Url.read? c.endpoint.toList = some u)
    (htime : 0 < c.timeoutSeconds) (hfinal : ∀ r reply, answer r = some reply → reply.IsFinal)
    (p : Page) (seen : List Http.Request) :
    p.post c (.answering u answer) seen =
      (verdict c.endpoint (answer (p.requestTo u)), seen ++ [p.requestTo u]) := by
  have hrun : (p.exchange c).run (.answering u answer) seen =
      (answer (p.requestTo u), seen ++ [p.requestTo u]) := by
    unfold exchange
    rw [hu]
    dsimp only
    rw [if_neg (Nat.ne_of_gt htime)]
    exact Http.Exchange.run_answering hfinal 9 u p.request seen
  unfold post
  rw [hrun]

/-! ### Pages of an alarm -/

/-- The page has plain details, and the dispatcher built it. -/
def Dispatcher.Builds (d : Dispatcher) (p : Page) : Prop :=
  ∃ message details, Details.ArePlain details ∧ p = d.page message details

/-- The particulars of all pages that are built are texts and lists of texts. -/
theorem Dispatcher.Builds.arePlain {d : Dispatcher} {p : Page} (h : d.Builds p) :
    p.alert.details.ArePlain := by
  obtain ⟨_, _, hdetails, rfl⟩ := h
  exact hdetails

namespace Alarm

/-- Whoever asks for a page gives it plain details. -/
def Op.AsksPlainly : Op → Prop
  | .dispatch _ details => Details.ArePlain details
  | _ => True

/-- The page of an alarm names the digest and the numbers in it. -/
theorem builds_page (a : Alarm) (batch : List Failure) : a.dispatcher.Builds (a.page batch) := by
  refine ⟨_, _, ⟨List.pairwise_singleton _ _, ?_⟩, rfl⟩
  intro d hd
  rw [List.mem_singleton.mp hd]
  exact .strings _

/-- The page about a hanging request names the request. -/
theorem builds_hangingPage (a : Alarm) (budget : Duration) (r : Request) :
    a.dispatcher.Builds (a.hangingPage budget r) := by
  refine ⟨_, _, ⟨?_, ?_⟩, rfl⟩
  · have hkeys : ["call_type", "model", "request_id", "started_at"].Pairwise (· < ·) := by decide
    exact Value.keysIncrease_iff.mpr hkeys
  · intro d hd
    simp only [List.mem_cons, List.not_mem_nil, or_false] at hd
    rcases hd with rfl | rfl | rfl | rfl <;> exact .string _

/-- Every page that a step hands over was built by the dispatcher, if those that are asked for are plain.
-/
theorem builds_of_step (a : Alarm) {op : Op} (hop : op.AsksPlainly) (s : State) :
    ∀ p ∈ (a.step s op).2.2.pages, a.dispatcher.Builds p.2 := by
  intro p hp
  rcases a.page_of_step s op p hp with ⟨batch, h⟩ | ⟨budget, r, h⟩ | ⟨message, details, rfl, h⟩
  · rw [h]
    exact a.builds_page batch
  · rw [h]
    exact a.builds_hangingPage budget r
  · rw [h]
    exact ⟨message, details, hop, rfl⟩

end Alarm

/-! ### One request for each page -/

namespace Line

open Alarm

variable {a : Alarm} {t : Transport (List Http.Request)} {l : Line (List Http.Request)}

/-- The transport sends one request for every page. -/
def Sends (t : Transport (List Http.Request)) (u : Http.Url) : Prop :=
  ∀ seen number p, (t.deliver seen number p).2.2 = seen ++ [p.requestTo u]

/-- Where each page is sent in one request, the requests are those of the pages, in the order in which
they are brought there. -/
theorem transport_deliver (h : Sends t u) (ps : List (Nat × Page)) (l : Line (List Http.Request)) :
    (deliver t l ps).1.transport = l.transport ++ ps.map (·.2.requestTo u) := by
  induction ps generalizing l with
  | nil => exact (List.append_nil _).symm
  | cons p ps ih =>
      obtain ⟨number, page⟩ := p
      have hnext := h l.transport number page
      unfold deliver
      generalize t.deliver l.transport number page = r at hnext ⊢
      obtain ⟨delivery, log, transport⟩ := r
      cases hnext
      rw [List.map_cons, List.append_cons]
      -- The end of the sending leaves the transport alone.
      cases delivery with
      | done result => exact ih _
      | held => exact ih _

/-- A step sends the pages that it hands over, and nothing else. -/
theorem transport_step (h : Sends t u) (a : Alarm) (l : Line (List Http.Request)) (op : Op) :
    (l.step a t op).1.transport = l.transport ++ (l.step a t op).2.2.pages.map (·.requestTo u) := by
  rw [pages_step, List.map_map]
  exact transport_deliver h _ _

/-- **Over a run the peer is sent one request for each page, in order.** -/
theorem transport_after (h : Sends t u) (a : Alarm) (l : Line (List Http.Request)) (ops : List Op) :
    (l.after a t ops).transport =
      l.transport ++ ((trail a t l ops).flatMap (·.2.2.pages)).map (·.requestTo u) := by
  induction ops generalizing l with
  | nil => exact (List.append_nil _).symm
  | cons op ops ih =>
      rw [trail, List.flatMap_cons, List.map_append, ← List.append_assoc, ← transport_step h]
      exact ih _

/-- A page that was asked for ends as the transport says at once. -/
theorem dispatch_done (hl : Numbered l.state) {message : String} {details : Details}
    {result : Except PagingError Unit}
    (h : (t.deliver l.transport l.state.nextSending (a.dispatcher.page message details)).1 =
      .done result) : (l.dispatch a t message details).2.1 = .finished result := by
  let x : Sending := ⟨l.state.nextSending, .direct, a.dispatcher.page message details⟩
  have hx : x ∈ (a.dispatch message details l.state).1.sending :=
    List.mem_append_right _ (List.mem_singleton.mpr rfl)
  have hanswers : (l.settle t (a.dispatch message details l.state).1
      (a.dispatch message details l.state).2.2).2.answers = [(l.state.nextSending, .direct result)] :=
    settle_done t l (a.numbered_step hl (.dispatch message details)) hx rfl h
  have hanswer : (l.settle t (a.dispatch message details l.state).1
      (a.dispatch message details l.state).2.2).2.answerTo? l.state.nextSending =
        some (.direct result) := by
    unfold Traffic.answerTo?
    rw [hanswers, List.find?_cons_of_pos (by simp)]
    rfl
  have hprogress : (a.dispatch message details l.state).2.1 = .sending l.state.nextSending := rfl
  unfold dispatch
  generalize a.dispatch message details l.state = r at hanswer hprogress ⊢
  obtain ⟨state, progress, effects⟩ := r
  cases hprogress
  dsimp only at hanswer ⊢
  rw [hanswer]

end Line

/-- The transport of the service sends each page in one request, if the endpoint is a web address, there
is time, and whoever answers does not redirect. -/
theorem Service.sends_postTransport (hu : Http.Url.read? c.endpoint.toList = some u)
    (htime : 0 < c.timeoutSeconds) (hfinal : ∀ r reply, answer r = some reply → reply.IsFinal) :
    Line.Sends (Service.postTransport c (.answering u answer)) u := by
  intro seen number p
  rw [Service.deliver_postTransport, p.post_answering hu htime hfinal]

namespace Alarm

/-- **A page on the wire is the page that was built.** An alarm posts its pages to a peer that answers
each request by itself, with final replies or not at all, and whoever asks the alarm for pages of their
own gives plain details.

* A page that the dispatcher builds is posted once, in a request that carries it, and what the peer
  answers is the result.
* All pages of a run were built in this way, and the peer was sent one request for each of them.
* Whoever asks for a page then, or records a failure that raises the alarm, is told the result. -/
theorem page_on_wire (a : Alarm) (hu : Http.Url.read? c.endpoint.toList = some u)
    (htime : 0 < c.timeoutSeconds) (hfinal : ∀ r reply, answer r = some reply → reply.IsFinal)
    {ops : List Op} (hops : ∀ op ∈ ops, op.AsksPlainly) :
    let peer := Http.Peer.answering u answer
    let t := Service.postTransport c peer
    let l := Line.after a t ⟨{}, []⟩ ops
    let pages := (Line.trail a t ⟨{}, []⟩ ops).flatMap (·.2.2.pages)
    (∀ page, a.dispatcher.Builds page → ∃ r : Http.Request, r.Carries u page ∧
      ∀ seen, ∃ result, page.post c peer seen = (result, seen ++ [r]) ∧ Page.Tells (answer r) result) ∧
    (∀ page ∈ pages, a.dispatcher.Builds page) ∧
    List.Forall₂ (fun r page => r.Carries u page) l.transport pages ∧
    (∀ message details, Details.ArePlain details →
      ∃ r result, r.Carries u (a.dispatcher.page message details) ∧ Page.Tells (answer r) result ∧
        (l.dispatch a t message details).1.transport = l.transport ++ [r] ∧
        (l.dispatch a t message details).2.1 = .finished result) ∧
    ∀ now p, (a.step l.state (.record (some now) ⟨some p⟩)).2.1.Crosses →
      let batch := a.inWindow now (l.state.store.failures ++ [p.toFailure now])
      ∃ r result, r.Carries u (a.page batch) ∧ Page.Tells (answer r) result ∧
        (l.record a t (some now) ⟨some p⟩).1.transport = l.transport ++ [r] ∧
        (l.record a t (some now) ⟨some p⟩).2.1 = .finished (verdict batch.length result) := by
  intro peer t l pages
  have hsends : Line.Sends t u := Service.sends_postTransport hu htime hfinal
  have hnumbered : Numbered l.state := (Line.sending_after a t ops (a.numbered_after [])).1
  have hpost (p : Page) (seen : List Http.Request) : p.post c peer seen =
      (Page.verdict c.endpoint (answer (p.requestTo u)), seen ++ [p.requestTo u]) :=
    p.post_answering hu htime hfinal seen
  have hdone (seen : List Http.Request) (number : Nat) (p : Page) :
      (t.deliver seen number p).1 = .done (Page.verdict c.endpoint (answer (p.requestTo u))) := by
    rw [Service.deliver_postTransport, hpost]
  -- A step that hands over one page sends one request.
  have hone {op : Op} {number : Nat} {page : Page}
      (h : (a.step l.state op).2.2.pages = [(number, page)]) :
      (l.step a t op).1.transport = l.transport ++ [page.requestTo u] := by
    rw [Line.transport_step hsends, Line.pages_step, h]
    rfl
  have hbuilt : ∀ page ∈ pages, a.dispatcher.Builds page := by
    intro page hpage
    obtain ⟨r, hr, hin⟩ := List.mem_flatMap.mp hpage
    exact a.forall_pages_trail t _ (fun op hop s => a.builds_of_step (hops op hop) s) r hr page hin
  refine ⟨?_, hbuilt, ?_, ?_, ?_⟩
  · intro page hpage
    refine ⟨page.requestTo u, page.carries_requestTo hpage.arePlain u, fun seen => ?_⟩
    exact ⟨_, hpost page seen, Page.tells_verdict _ _⟩
  · rw [show l.transport = pages.map (·.requestTo u) from Line.transport_after hsends a _ ops,
      List.forall₂_map_left_iff, List.forall₂_same]
    intro page hpage
    exact page.carries_requestTo (hbuilt page hpage).arePlain u
  · intro message details hdetails
    refine ⟨_, _, Page.carries_requestTo hdetails u, Page.tells_verdict c.endpoint _, ?_, ?_⟩
    · exact @hone (.dispatch message details) _ _ rfl
    · exact Line.dispatch_done hnumbered (hdone _ _ _)
  · intro now p hcrosses batch
    obtain ⟨_, _, ⟨⟩, hc⟩ := crossing_of_crosses hcrosses
    refine ⟨(a.page batch).requestTo u, _, Page.carries_requestTo (a.builds_page batch).arePlain u,
      Page.tells_verdict c.endpoint _, ?_, ?_⟩
    · exact hone hc.pages
    · exact Line.record_done hnumbered hc (hdone _ _ _)

/-- A peer of the local host is busy and says so, to a page that was asked for and to the page over two
failures. -/
theorem page_on_wire_of_busy_peer :
    let c : PagingConfig := { endpoint := "http://127.0.0.1:9000/v2/enqueue" }
    let u : Http.Url :=
      ⟨false, .address 0x7F000001, 9000, ["v2".toList, "enqueue".toList], none⟩
    let busy : Http.Reply := { status := 503, body := some [0x62, 0x75, 0x73, 0x79] }
    let a := perMinute 2
    let t := Service.postTransport c (.answering u fun _ => some busy)
    let ops : List Op := [.record (some (second 0)) ⟨some {}⟩]
    let l := Line.after a t ⟨{}, []⟩ ops
    let details : Details := [("disk", .string "sda")]
    Http.Url.read? c.endpoint.toList = some u ∧ 0 < c.timeoutSeconds ∧ busy.IsFinal ∧
    (∀ op ∈ ops, op.AsksPlainly) ∧
    (∃ r, r.Carries u (a.dispatcher.page "Disk full" details) ∧
      (l.dispatch a t "Disk full" details).1.transport = l.transport ++ [r]) ∧
    (l.dispatch a t "Disk full" details).2.1 = .finished (.error (.status 503 "busy")) ∧
    (l.record a t (some (second 30)) ⟨some {}⟩).2.1 =
      .finished (.error (.dispatch (.status 503 "busy"))) := by
  intro c u busy a t ops l details
  have hu : Http.Url.read? c.endpoint.toList = some u := by decide +kernel
  have htime : 0 < c.timeoutSeconds := by decide
  have hfinal : busy.IsFinal := .inl rfl
  have hanswers : ∀ (r : Http.Request) reply, some busy = some reply → reply.IsFinal := by
    rintro _ _ ⟨⟩
    exact hfinal
  have hops : ∀ op ∈ ops, op.AsksPlainly := by
    intro op hop
    rw [List.mem_singleton.mp hop]
    trivial
  have hdetails : Details.ArePlain details := by
    refine ⟨List.pairwise_singleton _ _, fun d hd => ?_⟩
    rw [List.mem_singleton.mp hd]
    exact .string _
  -- A minute takes in both failures, so the second one crosses.
  have hreached : a.policy.isReached (a.inWindow (second 30)
      (l.state.store.failures ++ [LoggingPayload.toFailure {} (second 30)])).length = true := by decide
  have hopen : l.state.poisoned = false := by decide
  have hcrosses := record_reached hopen hreached
  -- The peer never answers anything but 503.
  have hbusy {r : Except PagingError Unit} (h : Page.Tells (some busy) r) :
      r = .error (.status 503 "busy") := h.status busy rfl (by decide)
  obtain ⟨-, -, -, hdispatch, hrecord⟩ := a.page_on_wire hu htime hanswers hops
  obtain ⟨r, result, hcarries, htells, hsent, hresult⟩ := hdispatch "Disk full" details hdetails
  obtain ⟨_, result', -, htells', -, hresult'⟩ := hrecord (second 30) {} ⟨_, hcrosses.reply⟩
  rw [hbusy htells] at hresult
  rw [hbusy htells'] at hresult'
  dsimp only [l, t]
  exact ⟨hu, htime, hfinal, hops, ⟨r, hcarries, hsent⟩, hresult, hresult'⟩

end Alarm

end

end FailureAlarm
