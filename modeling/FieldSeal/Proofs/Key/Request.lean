import FieldSeal.Proofs.Session.Log
import Mathlib.Data.List.Nodup

/-!
# Generated keys are made once

**Theorem (`generated_keys_are_made_once`).** A supply that makes its keys, and the ring behind it, are
asked for keys in any order. All answers are taken from one assignment of keys to kinds, which is that of
the ring in the end. It has keys of exactly those kinds that were asked for. Each of them is reported
once, when its kind is first asked for; and the first request to the supply itself, before anything else,
reports that the keys are lost in the end.

**Requests** (`KeyRequest`). The supply and its ring share the keys, but only the supply warns. What a
request spends and reports is known of each way to ask for keys; here it is put together with the answer
(`KeyRequest.answer_run`).

**The invariant** (`KeyRequests.Asked`). After some requests, the supply lacks the kinds that were not
asked for, and it will warn if it was not asked itself. So what a request reports depends on the requests
before it and on nothing else.
-/

namespace FieldSeal

/-! ## Requests -/

/-- A request for keys to a supply or to its ring; the index is the type of the answer. -/
inductive KeyRequest : Type → Type where
  /-- Ask the supply for the keys of a suite. -/
  | pair (suite : Suite) : KeyRequest (Except EnvelopeError KeyPair)
  /-- Ask the ring for the keys of a suite, past the supply. -/
  | ringPair (suite : Suite) : KeyRequest (Option KeyPair)
  /-- Ask the ring for one key. -/
  | ringKey (kind : KeyKind) : KeyRequest (Option SecretKey)

namespace KeyRequest

variable {α : Type} {state : KeySupply × Host}

def run : {α : Type} → KeyRequest α → KeySupply × Host → α × KeySupply × Host
  | _, pair suite => KeySupply.pairFor suite
  | _, ringPair suite => KeySupply.askRing (KeyRing.pairFor suite)
  | _, ringKey kind => KeySupply.askRing (KeyRing.get kind)

/-- The kinds of the keys that are asked for. -/
def kinds : {α : Type} → KeyRequest α → List KeyKind
  | _, pair suite | _, ringPair suite => KeyKind.requiredBy suite
  | _, ringKey kind => [kind]

/-- The supply itself is asked, and not its ring. -/
def toSupply : {α : Type} → KeyRequest α → Bool
  | _, pair _ => true
  | _, _ => false

/-- The keys of a suite, and no others. -/
def pairOf (key? : KeyKind → Option SecretKey) : Suite → KeyPair
  | .gm => { encryption := key? .gmEncryption, mac := key? .gmMac }
  | .modern => { encryption := key? .modernEncryption }

/-- The answer that is taken from an assignment of keys to kinds. -/
def answerOf (key? : KeyKind → Option SecretKey) : {α : Type} → KeyRequest α → α
  | _, pair suite => .ok (pairOf key? suite)
  | _, ringPair suite => some (pairOf key? suite)
  | _, ringKey kind => key? kind

theorem nodup_kinds (request : KeyRequest α) : request.kinds.Nodup := by
  have hsuite : ∀ suite, (KeyKind.requiredBy suite).Nodup := by
    intro suite
    cases suite <;> decide
  cases request with
  | pair suite => exact hsuite suite
  | ringPair suite => exact hsuite suite
  | ringKey kind => exact List.nodup_singleton kind

theorem pairOf_congr {key? key?' : KeyKind → Option SecretKey} {suite : Suite}
    (h : ∀ kind ∈ KeyKind.requiredBy suite, key? kind = key?' kind) :
    pairOf key? suite = pairOf key?' suite := by
  cases suite with
  | gm => rw [pairOf, pairOf, h .gmEncryption (by decide), h .gmMac (by decide)]
  | modern => rw [pairOf, pairOf, h .modernEncryption (by decide)]

/-- An answer is about the kinds that are asked for and no others. -/
theorem answerOf_congr {key? key?' : KeyKind → Option SecretKey} (request : KeyRequest α)
    (h : ∀ kind ∈ request.kinds, key? kind = key?' kind) :
    request.answerOf key? = request.answerOf key?' := by
  cases request with
  | pair suite => exact congrArg Except.ok (pairOf_congr h)
  | ringPair suite => exact congrArg some (pairOf_congr h)
  | ringKey kind => exact h kind (List.mem_singleton_self kind)

theorem pairOf_pairFor (suite : Suite) (state : KeyRing × Host) :
    (KeyRing.pairFor suite state).1 = pairOf (KeyRing.pairFor suite state).2.1.key? suite := by
  have hpair := KeyRing.pair?_pairFor suite state
  cases suite with
  | gm =>
    obtain ⟨key, mac, hkey, hmac, hanswer⟩ := KeyRing.pair?_gm_iff.1 hpair
    rw [hanswer, pairOf, hkey, hmac]
  | modern =>
    obtain ⟨key, hkey, hanswer⟩ := KeyRing.pair?_modern_iff.1 hpair
    rw [hanswer, pairOf, hkey]

/-- A request is answered with the keys that there are after it. -/
theorem answer_run (h : state.1.Generates) (request : KeyRequest α) :
    (request.run state).1 = request.answerOf (request.run state).2.1.key? := by
  obtain ⟨supply, host⟩ := state
  obtain ⟨ring, warned, rfl⟩ := h
  cases request with
  | pair suite => exact congrArg Except.ok (pairOf_pairFor suite (ring, _))
  | ringPair suite => exact congrArg some (pairOf_pairFor suite (ring, host))
  | ringKey kind => exact (KeyRing.key?_get kind (ring, host)).symm

/-- What a request spends. -/
theorem spends_run (h : state.1.Generates) (request : KeyRequest α) :
    Spends request.kinds (state.1.missing request.kinds) (state.1, state.2.entropy)
      ((request.run state).2.1, (request.run state).2.2.entropy) := by
  obtain ⟨supply, host⟩ := state
  obtain ⟨ring, warned, rfl⟩ := h
  cases request with
  | pair suite => exact KeySupply.spends_pairFor suite (.generated ring warned) host
  | ringPair suite => exact KeyRing.spends_pairFor suite ring warned warned host
  | ringKey kind => exact KeyRing.spends_get kind ring warned warned host

/-- What a request reports. -/
theorem reports_run (h : state.1.Generates) (request : KeyRequest α) :
    Reports request.toSupply request.kinds [] (state.1, state.2.events)
      ((request.run state).2.1, (request.run state).2.2.events) := by
  obtain ⟨supply, host⟩ := state
  obtain ⟨ring, warned, rfl⟩ := h
  cases request with
  | pair suite => exact KeySupply.reports_pairFor suite (.generated ring warned) host
  | ringPair suite => exact KeyRing.reports_pairFor suite ring warned host
  | ringKey kind => exact KeyRing.reports_get kind ring warned host

end KeyRequest

/-! ## Runs -/

/-- Requests in the order in which they are made. -/
abbrev KeyRequests := List ((α : Type) × KeyRequest α)

namespace KeyRequests

variable {state : KeySupply × Host} {requests : KeyRequests}

/-- The supply and the host after some requests. -/
def run : KeyRequests → KeySupply × Host → KeySupply × Host
  | [], state => state
  | ⟨_, request⟩ :: requests, state => run requests (request.run state).2

/-- The kinds of all keys that are asked for. -/
def kinds (requests : KeyRequests) : List KeyKind := requests.flatMap fun step => step.2.kinds

/-- The supply itself is asked at least once. -/
def toSupply (requests : KeyRequests) : Bool := requests.any fun step => step.2.toSupply

/-- What a request reports after others: that the keys are lost in the end, if the supply is asked for
the first time, and then the keys of the kinds that were not asked for before. -/
def notices {α : Type} (before : KeyRequests) (request : KeyRequest α) : List Event :=
  (if request.toSupply && !before.toSupply then [.usingGeneratedKeys] else []) ++
    (request.kinds.filter (· ∉ before.kinds)).map .generatedKey

theorem run_append (requests later : KeyRequests) (state : KeySupply × Host) :
    run (requests ++ later) state = run later (run requests state) := by
  induction requests generalizing state with
  | nil => rfl
  | cons step requests ih => exact ih _

theorem kinds_concat (requests : KeyRequests) (step : (α : Type) × KeyRequest α) :
    kinds (requests ++ [step]) = kinds requests ++ step.2.kinds := by
  simp [kinds]

theorem toSupply_concat (requests : KeyRequests) (step : (α : Type) × KeyRequest α) :
    toSupply (requests ++ [step]) = (toSupply requests || step.2.toSupply) := by
  simp [toSupply]

/-- What a supply that makes its keys has done once these requests were made. -/
structure Asked (requests : KeyRequests) (supply : KeySupply) : Prop where
  generates : supply.Generates
  lacks : ∀ kind, supply.lacks kind = decide (kind ∉ requests.kinds)
  warns : supply.warns = !requests.toSupply
  sized : supply.Sized

theorem asked_fresh : Asked [] .fresh where
  generates := ⟨_, _, rfl⟩
  lacks _ := rfl
  warns := rfl
  sized _ _ h := by cases h

theorem Asked.concat (h : Asked requests state.1) (step : (α : Type) × KeyRequest α) :
    Asked (requests ++ [step]) (step.2.run state).2.1 := by
  have hspends := step.2.spends_run h.generates
  have hreports := step.2.reports_run h.generates
  refine ⟨hspends.generates h.generates, fun kind => ?_, ?_, hspends.sized h.sized⟩
  · rw [hreports.lacks, h.lacks, kinds_concat]
    simp [not_or]
  · rw [hreports.warns, h.warns, toSupply_concat, Bool.not_or]

/-- By induction on the requests, the last of them at the end. -/
theorem asked_run (host : Host) (requests : KeyRequests) :
    Asked requests (requests.run (.fresh, host)).1 := by
  induction requests using List.reverseRecOn with
  | nil => exact asked_fresh
  | append_singleton requests step ih =>
    rw [run_append]
    exact ih.concat step

/-- A key stays what it is. -/
theorem key?_run (h : state.1.Generates) {kind : KeyKind} {key : SecretKey}
    (hkey : state.1.key? kind = some key) (requests : KeyRequests) :
    (requests.run state).1.key? kind = some key := by
  induction requests generalizing state with
  | nil => exact hkey
  | cons step requests ih =>
    have hspends := step.2.spends_run h
    exact ih (hspends.generates h) (hspends.kept kind key hkey)

theorem Asked.exists_key? (h : Asked requests state.1) {kind : KeyKind}
    (hkind : kind ∈ requests.kinds) : ∃ key, state.1.key? kind = some key := by
  obtain ⟨ring, warned, hsupply⟩ := h.generates
  have hlacks := h.lacks kind
  rw [hsupply, KeySupply.lacks, decide_eq_false (not_not.2 hkind), Option.isNone_eq_false_iff] at hlacks
  rw [hsupply]
  exact Option.isSome_iff_exists.1 hlacks

/-- The reports of a request, by the requests before it. -/
theorem Asked.events (h : Asked requests state.1) {α : Type} (request : KeyRequest α) :
    (request.run state).2.2.events = state.2.events ++ notices requests request := by
  have hlacks : state.1.lacks = fun kind => decide (kind ∉ requests.kinds) := funext h.lacks
  have hevents := (request.reports_run h.generates).events
  rw [List.append_nil, KeySupply.notices, h.warns, hlacks] at hevents
  exact hevents

/-! ## The log -/

theorem generatedKey_injective : Function.Injective Event.generatedKey := fun _ _ h => by
  cases h
  rfl

theorem count_generatedKey_notices {α : Type} (before : KeyRequests) (request : KeyRequest α)
    (kind : KeyKind) :
    (notices before request).count (.generatedKey kind) =
      if kind ∈ request.kinds ∧ kind ∉ before.kinds then 1 else 0 := by
  have hwarning : (if request.toSupply && !before.toSupply then
      [Event.usingGeneratedKeys] else []).count (.generatedKey kind) = 0 := by
    split <;> rfl
  have hnodup : ((request.kinds.filter (· ∉ before.kinds)).map Event.generatedKey).Nodup :=
    (request.nodup_kinds.filter _).map generatedKey_injective
  rw [notices, List.count_append, hwarning, Nat.zero_add, hnodup.count]
  simp

theorem count_usingGeneratedKeys_notices {α : Type} (before : KeyRequests)
    (request : KeyRequest α) :
    (notices before request).count .usingGeneratedKeys =
      if request.toSupply && !before.toSupply then 1 else 0 := by
  have hkeys : ((request.kinds.filter (· ∉ before.kinds)).map Event.generatedKey).count
      .usingGeneratedKeys = 0 := by
    simp [List.count_eq_zero]
  rw [notices, List.count_append, hkeys, Nat.add_zero]
  split <;> rfl

/-- What all requests report together. -/
theorem exists_log (host : Host) (requests : KeyRequests) :
    ∃ log, (requests.run (.fresh, host)).2.events = host.events ++ log ∧
      (∀ kind, log.count (.generatedKey kind) = if kind ∈ requests.kinds then 1 else 0) ∧
      log.count .usingGeneratedKeys = if requests.toSupply then 1 else 0 := by
  induction requests using List.reverseRecOn with
  | nil => exact ⟨[], (List.append_nil _).symm, fun _ => rfl, rfl⟩
  | append_singleton requests step ih =>
    obtain ⟨log, hlog, hkeys, hwarning⟩ := ih
    refine ⟨log ++ notices requests step.2, ?_, fun kind => ?_, ?_⟩
    · rw [run_append, ← List.append_assoc, ← hlog]
      exact (asked_run host requests).events step.2
    · rw [List.count_append, hkeys, count_generatedKey_notices, kinds_concat]
      by_cases hbefore : kind ∈ kinds requests <;> simp [hbefore]
    · rw [List.count_append, hwarning, count_usingGeneratedKeys_notices, toSupply_concat]
      cases toSupply requests <;> simp

/-! ## The ring -/

/-- An answer that was given is taken from the ring in the end. -/
theorem answer_eq (host : Host) {α : Type} (before : KeyRequests) (request : KeyRequest α)
    (after : KeyRequests) :
    (request.run (before.run (.fresh, host))).1 =
      request.answerOf (run (before ++ ⟨α, request⟩ :: after) (.fresh, host)).1.key? := by
  have hbefore := asked_run host before
  have hasked := hbefore.concat ⟨α, request⟩
  rw [request.answer_run hbefore.generates, run_append]
  refine request.answerOf_congr fun kind hkind => ?_
  have hmem : kind ∈ kinds (before ++ [⟨α, request⟩]) := by
    rw [kinds_concat]
    exact List.mem_append_right _ hkind
  obtain ⟨key, hkey⟩ := hasked.exists_key? hmem
  exact hkey.trans (key?_run hasked.generates hkey after).symm

/-- A supply whose keys are still to be made is asked for keys, and so is its ring. In the end the ring
has keys, each of the length of its kind, of exactly the kinds that were asked for, and the supply has
given its warning if it was asked itself. Each request was answered from this ring, and it reported what
was not reported before. So there is one report for each key, and at most one warning. -/
theorem generated_keys_are_made_once (host : Host) (requests : KeyRequests) :
    ∃ ring log,
      (requests.run (.fresh, host)).1 = .generated ring requests.toSupply ∧
      (requests.run (.fresh, host)).2.events = host.events ++ log ∧
      (∀ before step after, requests = before ++ step :: after →
        (step.2.run (before.run (.fresh, host))).1 = step.2.answerOf ring.key? ∧
        (step.2.run (before.run (.fresh, host))).2.2.events =
          (before.run (.fresh, host)).2.events ++ notices before step.2) ∧
      (∀ kind, kind ∈ ring.kinds ↔ kind ∈ requests.kinds) ∧
      (∀ kind key, ring.key? kind = some key → key.bytes.length = kind.length) ∧
      (∀ kind, log.count (.generatedKey kind) = if kind ∈ ring.kinds then 1 else 0) ∧
      log.count .usingGeneratedKeys = if requests.toSupply then 1 else 0 := by
  have hasked := asked_run host requests
  obtain ⟨ring, warned, hsupply⟩ := hasked.generates
  obtain ⟨log, hlog, hkeys, hwarning⟩ := exists_log host requests
  have hwarned : warned = requests.toSupply := by
    have hwarns := hasked.warns
    rw [hsupply] at hwarns
    exact Bool.not_inj hwarns
  have hkinds : ∀ kind, kind ∈ ring.kinds ↔ kind ∈ requests.kinds := by
    intro kind
    have hlacks := hasked.lacks kind
    rw [hsupply, KeySupply.lacks] at hlacks
    simp [KeyRing.kinds, KeyKind.mem_all, Option.isSome_iff_ne_none, ← Option.isNone_iff_eq_none,
      hlacks]
  refine ⟨ring, log, by rw [hsupply, hwarned], hlog, ?_, hkinds, ?_, ?_, hwarning⟩
  · rintro before ⟨α, request⟩ after rfl
    refine ⟨?_, (asked_run host before).events request⟩
    rw [answer_eq host before request after, hsupply]
    rfl
  · have hsized := hasked.sized
    rw [hsupply] at hsized
    exact hsized
  · intro kind
    rw [hkeys]
    exact if_congr (hkinds kind).symm rfl rfl

/-- The key of the authenticator is asked for alone, before the supply is asked for the pair: the pair
has this key, and only the other key is reported then, after the warning. -/
theorem key_asked_for_first_is_in_pair :
    let host : Host := { entropy := .cycle [] }
    let before : KeyRequests := [⟨_, .ringKey .gmMac⟩]
    ∃ key? : KeyKind → Option SecretKey,
      ((KeyRequest.ringKey .gmMac).run (.fresh, host)).1 = key? .gmMac ∧
      ((KeyRequest.pair .gm).run (before.run (.fresh, host))).1 =
        .ok { encryption := key? .gmEncryption, mac := key? .gmMac } ∧
      ((KeyRequest.pair .gm).run (before.run (.fresh, host))).2.2.events =
        [.generatedKey .gmMac, .usingGeneratedKeys, .generatedKey .gmEncryption] := by
  intro host before
  obtain ⟨ring, log, -, -, hsteps, -⟩ :=
    generated_keys_are_made_once host (before ++ [⟨_, .pair .gm⟩])
  obtain ⟨hkey, hfirst⟩ := hsteps [] _ _ rfl
  obtain ⟨hpair, hsecond⟩ := hsteps before _ [] rfl
  refine ⟨ring.key?, hkey, hpair, hsecond.trans ?_⟩
  show _ ++ [Event.usingGeneratedKeys, .generatedKey .gmEncryption] = _
  exact congrArg (· ++ _) hfirst

end KeyRequests

end FieldSeal
