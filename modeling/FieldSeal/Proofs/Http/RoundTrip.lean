import FieldSeal.Http.Server
import FieldSeal.Proofs.Document.Effect
import FieldSeal.Proofs.Document.RoundTrip
import FieldSeal.Proofs.Exchange.RoundTrip

/-!
# What a server protected it reveals

**Theorem (`protected_document_is_revealed`).** If a server protected the document of a message, then
a later message with the document of its answer and the same field specifications is answered with
the document itself, whatever was asked of the server before and in between.

**Requests.** Every request leads to a codec that follows the one before (`follows_respond`), whether
it succeeds or is refused, and so does a run of requests (`follows_serve`).

**Texts.** What the server reads from a body, it can read again with other texts in it, and so can
the reader of its answer. The bodies of the two requests need not be alike: what matters is the
message that they denote.
-/

namespace FieldSeal

namespace Document

open FieldRule

variable {rules : List FieldRule} {doc sealed : Json} {c c' d : Codec}

theorem follows_protectFields (rules : List FieldRule) (doc : Json) (c : Codec) :
    c.Follows (protectFields rules (doc, c)).2.2 :=
  (outcome_applyAll Codec.protect rules doc c).along Codec.along_protect

theorem follows_revealFields (rules : List FieldRule) (doc : Json) (c : Codec) :
    c.Follows (revealFields rules (doc, c)).2.2 :=
  (outcome_applyAll Codec.reveal rules doc c).along Codec.along_reveal

/-- A protected document is a filling of the document, and any codec that follows restores it. -/
theorem revealFields_of_protectFields (hc : c.service.BuiltIn)
    (h : protectFields rules (doc, c) = (.ok (), sealed, c')) (hd : c'.Follows d) :
    (∃ texts, sealed = doc.fill texts) ∧
      ∃ d', revealFields rules (sealed, d) = (.ok (), doc, d') := by
  obtain ⟨texts, rfl, hfollows, hsealed⟩ := layers_of_protectFields hc h
  have hlayers : ∀ place, Layers d.service.Readable (times (rules ++ []) doc place)
      (texts place) (doc.texts place) := by
    intro place
    rw [List.append_nil]
    exact (hsealed place).mono hd.readable
  obtain ⟨texts', d', hall, -, hnone⟩ :=
    revealFields_of_layers ((hfollows.trans hd).builtIn hc) hlayers
  have hdoc : doc.fill texts' = doc := by
    refine Json.fill_eq_self fun place text htext => ?_
    rw [← Json.texts_of_textAt? htext]
    exact (hnone place).eq_of_zero
  rw [hdoc] at hall
  exact ⟨⟨texts, rfl⟩, d', hall⟩

end Document

namespace Http

/-! ## Requests -/

/-- The codec of a server after requests. -/
def serve : List Request → Codec → Codec
  | [], c => c
  | r :: rest, c => serve rest (respond r c).2

/-- A server that was just started. -/
inductive Started : Codec → Prop
  | new (policy : Policy) (supply : KeySupply) (host : Host) :
    Started { service := .standard policy supply host }
  | settings (s : Settings) (host : Host) : Started (startWith s host)

theorem builtIn_standard (policy : Policy) (supply : KeySupply) (host : Host) :
    (Service.standard policy supply host).BuiltIn := by
  refine ⟨(Registry.builtIn_empty.register .gm).register .modern, fun suite kept h => ?_⟩
  cases h

theorem Started.builtIn {c : Codec} (h : Started c) : c.service.BuiltIn := by
  cases h with
  | new policy supply host => exact builtIn_standard policy supply host
  | settings s host =>
    exact (Service.along_bindingFor s.suite _).builtIn (builtIn_standard _ _ _)

theorem follows_report (e : Event) (c : Codec) :
    c.Follows { c with service := { c.service with host := c.service.host.report e } } :=
  Service.follows_of_same rfl rfl (KeySupply.Extends.refl _)

theorem follows_change {walk : List FieldRule → Document.Walk Codec FieldError}
    (hwalk : ∀ rules doc (c : Codec), c.Follows (walk rules (doc, c)).2.2) (failed : String → Event)
    (message : Exchange.Request) (c : Codec) : c.Follows (change walk failed message c).2 := by
  unfold change
  cases Exchange.resolve message.fields with
  | error failure => exact Codec.Follows.refl c
  | ok rules =>
    have hfollows := hwalk rules message.payload c
    rcases hrun : walk rules (message.payload, c) with ⟨result, payload, d⟩
    rw [hrun] at hfollows
    cases result with
    | ok => simpa only [hrun] using hfollows
    | error e => simpa only [hrun] using hfollows.trans (follows_report _ d)

theorem follows_answerChange {walk : List FieldRule → Document.Walk Codec FieldError}
    (hwalk : ∀ rules doc (c : Codec), c.Follows (walk rules (doc, c)).2.2) (failed : String → Event)
    (r : Request) (c : Codec) : c.Follows (answerChange walk failed r c).2 := by
  unfold answerChange
  cases decode r with
  | error refusal => exact Codec.Follows.refl c
  | ok message => exact follows_change hwalk failed message c

/-- What a request leaves behind. -/
theorem follows_respond (r : Request) (c : Codec) : c.Follows (respond r c).2 := by
  unfold respond
  cases Place.ofTarget? r.target with
  | none => exact Codec.Follows.refl c
  | some place =>
    by_cases hmethod : r.method ∉ place.methods
    · simp only [if_pos hmethod]
      exact Codec.Follows.refl c
    · simp only [if_neg hmethod]
      cases place with
      | protect => exact follows_answerChange Document.follows_protectFields _ r c
      | reveal => exact follows_answerChange Document.follows_revealFields _ r c
      | health => exact Service.follows_of_same rfl rfl (KeySupply.Extends.refl _)

/-- What requests leave behind. -/
theorem follows_serve (requests : List Request) (c : Codec) : c.Follows (serve requests c) := by
  induction requests generalizing c with
  | nil => exact Codec.Follows.refl c
  | cons r rest ih => exact (follows_respond r c).trans (ih _)

/-! ## Answers -/

variable {walk : List FieldRule → Document.Walk Codec FieldError} {failed : String → Event}
  {r : Request} {message : Exchange.Request} {c d : Codec} {rules : List FieldRule} {payload : Json}

theorem respond_protect (hplace : Place.ofTarget? r.target = some .protect)
    (hmethod : r.method = "POST") (hdecode : decode r = .ok message) :
    respond r c = change Document.protectFields .protectFailed message c := by
  have hallowed : ¬r.method ∉ Place.protect.methods := by
    rw [hmethod]
    decide
  simp only [respond, hplace, if_neg hallowed, answerChange, hdecode]

theorem respond_reveal (hplace : Place.ofTarget? r.target = some .reveal)
    (hmethod : r.method = "POST") (hdecode : decode r = .ok message) :
    respond r c = change Document.revealFields .revealFailed message c := by
  have hallowed : ¬r.method ∉ Place.reveal.methods := by
    rw [hmethod]
    decide
  simp only [respond, hplace, if_neg hallowed, answerChange, hdecode]

theorem change_of_ok (hrules : Exchange.resolve message.fields = .ok rules)
    (hrun : walk rules (message.payload, c) = (.ok (), payload, d)) :
    change walk failed message c = (.json 200 (Exchange.Answer.mk payload).write, d) := by
  simp only [change, hrules, hrun]

theorem status_refuse_ne (f : Exchange.Failure) : (refuse f).status ≠ 200 := by
  cases f <;> exact nofun

/-- Only a change of the whole document is answered with the status 200. -/
theorem exists_of_status (h : (change walk failed message c).1.status = 200) :
    ∃ rules payload d, Exchange.resolve message.fields = .ok rules ∧
      walk rules (message.payload, c) = (.ok (), payload, d) := by
  cases hrules : Exchange.resolve message.fields with
  | error failure =>
    simp only [change, hrules] at h
    exact absurd h (status_refuse_ne failure)
  | ok rules =>
    rcases hrun : walk rules (message.payload, c) with ⟨result, payload, d⟩
    cases result with
    | ok => exact ⟨rules, payload, d, rfl, hrun⟩
    | error e =>
      simp only [change, hrules, hrun] at h
      exact absurd h (status_refuse_ne _)

theorem sound_of_decode (h : decode r = .ok message) : message.Sound := by
  unfold decode at h
  split at h
  · cases h
  · split at h
    · cases h
    · split at h
      · next hread =>
        cases h
        exact Exchange.Request.sound_of_readStart hread
      · cases h
      · cases h

/-- A message is decoded from its text, if this is not too long. -/
theorem decode_write (hsound : message.Sound) (hint : message.payload.Integral)
    (hjson : hasJsonBody r) (hbody : r.body = message.write)
    (hlimit : r.body.utf8ByteSize ≤ bodyLimit) : decode r = .ok message := by
  have hread := Exchange.Request.readStart_write hsound hint
  rw [decode, if_neg (not_not_intro hjson), if_neg (Nat.not_lt.2 hlimit), hbody]
  simp only [hread]

/-! ## The round trip -/

/-- **What was protected is revealed.** A server was started, and answered any requests. If it then
protects the document of a message, in which all numbers are integers, its answer is the text of a
document, which is read from it.

- Any later message of this document and the same field specifications is answered by the document
  as it was, whatever is asked in between.
- Such a message can be written: its text is decoded to it, if it is within the limit.
- The answer is read as the document. -/
theorem protected_document_is_revealed {c : Codec} (hstart : Started c) (before : List Request)
    {r : Request} {message : Exchange.Request}
    (hplace : Place.ofTarget? r.target = some .protect) (hmethod : r.method = "POST")
    (hdecode : decode r = .ok message) (hint : message.payload.Integral)
    (hstatus : (respond r (serve before c)).1.status = 200) :
    ∃ sealed : Json,
      (respond r (serve before c)).1 = .json 200 (Exchange.Answer.mk sealed).write ∧
      Json.readAll Exchange.Answer.reader (Exchange.Answer.mk sealed).write = .ok ⟨sealed⟩ ∧
      (∀ (between : List Request) (r' : Request), Place.ofTarget? r'.target = some .reveal →
        r'.method = "POST" → decode r' = .ok ⟨sealed, message.fields⟩ →
        (respond r' (serve between (respond r (serve before c)).2)).1 =
          .json 200 (Exchange.Answer.mk message.payload).write) ∧
      (∀ r' : Request, hasJsonBody r' → r'.body = (Exchange.Request.mk sealed message.fields).write →
        r'.body.utf8ByteSize ≤ bodyLimit → decode r' = .ok ⟨sealed, message.fields⟩) ∧
      Json.readAll Exchange.Answer.reader (Exchange.Answer.mk message.payload).write =
        .ok ⟨message.payload⟩ := by
  have hready : (serve before c).service.BuiltIn := (follows_serve before c).builtIn hstart.builtIn
  generalize serve before c = now at hstatus hready ⊢
  have hsound := sound_of_decode hdecode
  have hrespond : respond r now = change Document.protectFields .protectFailed message now :=
    respond_protect hplace hmethod hdecode
  rw [hrespond] at hstatus ⊢
  obtain ⟨rules, sealed, d, hrules, hrun⟩ := exists_of_status hstatus
  rw [change_of_ok hrules hrun]
  obtain ⟨⟨texts, hfill⟩, -⟩ :=
    Document.revealFields_of_protectFields hready hrun (Codec.Follows.refl d)
  have hfit : Json.Fit (Json.levelLimit - 1) sealed := hfill ▸ hsound.payload.fill texts
  have hsealed : sealed.Integral := hfill ▸ hint.fill texts
  refine ⟨sealed, rfl, Exchange.Answer.readAll_write hfit hsealed,
    fun between r' hplace' hmethod' hdecode' => ?_, fun r' hjson hbody hlimit => ?_,
    Exchange.Answer.readAll_write hsound.payload hint⟩
  · obtain ⟨-, d', hreveal⟩ :=
      Document.revealFields_of_protectFields hready hrun (follows_serve between d)
    have hchange : change Document.revealFields .revealFailed ⟨sealed, message.fields⟩
        (serve between d) = (.json 200 (Exchange.Answer.mk message.payload).write, d') :=
      change_of_ok hrules hreveal
    rw [respond_reveal hplace' hmethod' hdecode', hchange]
  · exact decode_write ⟨hfit, hsound.fields⟩ hsealed hjson hbody hlimit

/-- A text with a quote, a backslash and a control character, of which nothing is masked. -/
def escaped : Exchange.Request where
  payload := .object [("a", .string "\"\\\x01")]
  fields := [⟨"a", "custom", some 0, some 0, none, some false⟩]

theorem integral_escaped : escaped.payload.Integral := by
  intro place n hnode
  match place with
  | [] => cases hnode
  | [0] => cases hnode
  | 0 :: _ :: _ => cases hnode
  | (i + 1) :: place => cases hnode

theorem sound_escaped : escaped.Sound := by
  refine ⟨?_, ?_⟩
  · refine Json.fit_of_children ⟨by decide, List.pairwise_singleton _ _⟩ fun i child hchild => ?_
    cases i with
    | zero =>
      cases hchild
      exact Json.fit_of_leaf trivial fun _ => rfl
    | succ i => cases hchild
  · intro spec hspec
    cases List.mem_singleton.1 hspec
    refine ⟨?_, ?_⟩ <;> rintro _ ⟨⟩ <;> exact Nat.zero_le _

/-- A text that is escaped in JSON, protected after a question for the health of the server, and
revealed after a body that is no message. -/
theorem escaped_text_is_revealed :
    ∃ (c : Codec) (r r' : Request), Started c ∧
      Place.ofTarget? r.target = some .protect ∧ r.method = "POST" ∧ decode r = .ok escaped ∧
      escaped.payload.Integral ∧
      (respond r (serve [⟨"GET", "/health", none, ""⟩] c)).1.status = 200 ∧
      (respond r' (serve [⟨"POST", "/reveal", some "application/json", "["⟩]
        (respond r (serve [⟨"GET", "/health", none, ""⟩] c)).2)).1 =
          .json 200 (Exchange.Answer.mk escaped.payload).write := by
  let host : Host := ⟨⟨fun _ => 7, 0⟩, []⟩
  let c : Codec := { service := .standard (.always .modern) .fresh host }
  let r : Request := ⟨"POST", "/protect", some "application/json", escaped.write⟩
  have hdecode : decode r = .ok escaped :=
    decode_write sound_escaped integral_escaped (by decide +kernel) rfl (by decide +kernel)
  have hanswer : (respond r (serve [⟨"GET", "/health", none, ""⟩] c)).1.status = 200 ∧
      (respond r (serve [⟨"GET", "/health", none, ""⟩] c)).1.body.utf8ByteSize ≤ 1000 := by
    decide +kernel
  obtain ⟨hstatus, hsize⟩ := hanswer
  obtain ⟨sealed, hbody, -, hreveal, hwrite, -⟩ := protected_document_is_revealed
    (.new (.always .modern) .fresh host) [⟨"GET", "/health", none, ""⟩] (by decide +kernel) rfl
    hdecode integral_escaped hstatus
  rw [hbody] at hsize
  have hfields : (("," ++ (Json.quote "fields" ++ ":" ++
      Json.writeArray (escaped.fields.map FieldSpec.write))).utf8ByteSize) ≤ 1000 := by
    decide +kernel
  have hlimit : (Exchange.Request.mk sealed escaped.fields).write.utf8ByteSize ≤ bodyLimit := by
    simp only [Response.json, Exchange.Answer.write, Exchange.Request.write, Json.writeObject,
      List.map_cons, List.map_nil, Json.joinWith, String.utf8ByteSize_append, bodyLimit]
      at hsize hfields ⊢
    omega
  have hplace : Place.ofTarget? "/reveal" = some .reveal := by decide +kernel
  have hjson : hasJsonBody ⟨"POST", "/reveal", some "application/json", ""⟩ := by decide +kernel
  let r' : Request := ⟨"POST", "/reveal", some "application/json",
    (Exchange.Request.mk sealed escaped.fields).write⟩
  refine ⟨c, r, r', .new _ _ _, by decide +kernel, rfl, hdecode, integral_escaped, hstatus, ?_⟩
  exact hreveal _ r' hplace rfl (hwrite r' hjson rfl hlimit)

end Http

end FieldSeal
