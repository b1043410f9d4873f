import FieldSeal.Proofs.Envelope.Wire
import FieldSeal.Proofs.Mask.Accepted
import FieldSeal.Proofs.Pattern.Complete
import FieldSeal.Proofs.Pattern.Language

/-!
# Addresses, and envelopes that are addresses

**Theorem (`accepts_email_iff`).** A text satisfies the pattern of addresses exactly if it has two parts
with an at sign between them. The local part is made of words with single dots between them (`Dotted`),
the other one is a word of the language of hosts (`Parts`).

**Masks** (`Parts.mask`). The mask of an address starts with an excerpt of the local part, where a
delimiter has become a star. This is still a local part, since it is cut off in front of a star
(`Dotted.mask`).

**Envelopes** (`Parts.envelope`). Whatever stands in an envelope in front of the mask may stand in a
word of a local part: the sentinel, the delimiters, the codes and all symbols of base64. So the envelope
of an address is an address again, at the same host. Its own mask no longer depends on the local part
(`Parts.mask_envelope`).
-/

namespace FieldSeal.SensitiveKind.Email

open Pattern Unicode Mask

variable {cs domain xs : List Char} {i j : Nat} {text : String}

/-! ## Local parts -/

/-- Words with single dots between them. -/
inductive Dotted : List Char → Prop where
  | single {c : Char} (hc : atom.has c) : Dotted [c]
  | cons {c : Char} {cs : List Char} (hc : atom.has c) (h : Dotted cs) : Dotted (c :: cs)
  | dot {c : Char} {cs : List Char} (hc : atom.has c) (h : Dotted cs) : Dotted (c :: '.' :: cs)

theorem Dotted.append_left (hxs : ∀ c ∈ xs, atom.has c) (h : Dotted cs) : Dotted (xs ++ cs) := by
  induction xs with
  | nil => exact h
  | cons x xs ih =>
    obtain ⟨hx, hrest⟩ := List.forall_mem_cons.1 hxs
    exact .cons hx (ih hrest)

theorem dotted_replicate {c : Char} (hc : atom.has c) (n : Nat) :
    Dotted (List.replicate (n + 1) c) := by
  induction n with
  | zero => exact .single hc
  | succ n ih => exact .cons hc ih

/-- A word, which is not empty. -/
def IsWord (xs : List Char) : Prop := xs ≠ [] ∧ ∀ c ∈ xs, atom.has c

theorem isWord_singleton {c : Char} (hc : atom.has c) : IsWord [c] :=
  ⟨List.cons_ne_nil c [], List.forall_mem_singleton.2 hc⟩

theorem IsWord.cons {c : Char} (hc : atom.has c) (h : IsWord xs) : IsWord (c :: xs) :=
  ⟨List.cons_ne_nil c xs, List.forall_mem_cons.2 ⟨hc, h.2⟩⟩

/-- What the pattern takes in front of the at sign: a word, and words with dots in front of them. -/
theorem mem_front_iff : cs ∈ front.language ↔ ∃ (xs : List Char) (words : List (List Char)),
    IsWord xs ∧ (∀ ys ∈ words, IsWord ys) ∧ xs ++ (words.map ('.' :: ·)).flatten = cs := by
  constructor
  · intro h
    obtain ⟨xs, hxs, tail, htail, rfl⟩ := Shape.mem_language_cat.1 h
    obtain ⟨parts, rfl, -, -, hparts⟩ := Shape.mem_language_rep.1 htail
    have hdot : ∀ part ∈ parts, ∃ ys, IsWord ys ∧ '.' :: ys = part := by
      intro part hpart
      obtain ⟨_, ⟨d, rfl, hd⟩, ys, hys, rfl⟩ := Shape.mem_language_cat.1 (hparts part hpart)
      rw [CodeSet.has_single] at hd
      exact ⟨ys, Shape.mem_language_run.1 hys, hd ▸ rfl⟩
    refine ⟨xs, parts.map List.tail, Shape.mem_language_run.1 hxs, fun ys hys => ?_, ?_⟩
    · obtain ⟨part, hpart, rfl⟩ := List.mem_map.1 hys
      obtain ⟨ys, hword, rfl⟩ := hdot part hpart
      exact hword
    · have hsame : ∀ part ∈ parts, (('.' :: ·) ∘ List.tail) part = id part := by
        intro part hpart
        obtain ⟨ys, -, rfl⟩ := hdot part hpart
        rfl
      rw [List.map_map, List.map_congr_left hsame, List.map_id]
  · rintro ⟨xs, words, hxs, hwords, rfl⟩
    refine Shape.mem_language_cat.2 ⟨xs, Shape.mem_language_run.2 hxs, _, ?_, rfl⟩
    refine Shape.mem_language_rep.2 ⟨_, rfl, Nat.zero_le _, nofun, fun part hpart => ?_⟩
    obtain ⟨ys, hys, rfl⟩ := List.mem_map.1 hpart
    exact Shape.mem_language_cat.2 ⟨['.'], ⟨'.', rfl, by decide⟩, ys,
      Shape.mem_language_run.2 (hwords ys hys), rfl⟩

/-- A word, and behind it nothing or a dot and more. -/
theorem IsWord.dotted {tail : List Char} (hxs : IsWord xs)
    (htail : tail = [] ∨ ∃ cs, '.' :: cs = tail ∧ Dotted cs) : Dotted (xs ++ tail) := by
  obtain ⟨hne, hatoms⟩ := hxs
  induction xs with
  | nil => exact absurd rfl hne
  | cons x xs ih =>
    obtain ⟨hx, hrest⟩ := List.forall_mem_cons.1 hatoms
    by_cases hnil : xs = []
    · subst hnil
      rcases htail with rfl | ⟨cs, rfl, h⟩
      · exact .single hx
      · exact .dot hx h
    · exact .cons hx (ih hnil hrest)

theorem dotted_words {words : List (List Char)} (hxs : IsWord xs) (hwords : ∀ ys ∈ words, IsWord ys) :
    Dotted (xs ++ (words.map ('.' :: ·)).flatten) := by
  induction words generalizing xs with
  | nil => exact hxs.dotted (.inl rfl)
  | cons ys words ih =>
    obtain ⟨hys, hrest⟩ := List.forall_mem_cons.1 hwords
    exact hxs.dotted (.inr ⟨_, rfl, ih hys hrest⟩)

/-- The local parts are what the pattern takes in front of the at sign. -/
theorem mem_front_iff_dotted : cs ∈ front.language ↔ Dotted cs := by
  constructor
  · intro h
    obtain ⟨xs, words, hxs, hwords, rfl⟩ := mem_front_iff.1 h
    exact dotted_words hxs hwords
  · intro h
    rw [mem_front_iff]
    induction h with
    | single hc => exact ⟨[_], [], isWord_singleton hc, nofun, rfl⟩
    | cons hc _ ih =>
      obtain ⟨xs, words, hxs, hwords, rfl⟩ := ih
      exact ⟨_ :: xs, words, hxs.cons hc, hwords, rfl⟩
    | dot hc _ ih =>
      obtain ⟨xs, words, hxs, hwords, rfl⟩ := ih
      exact ⟨[_], xs :: words, isWord_singleton hc, List.forall_mem_cons.2 ⟨hxs, hwords⟩, rfl⟩

/-- What is cut off in front of stars is still a local part. -/
theorem Dotted.take_stars (h : Dotted cs) (n k : Nat) :
    Dotted (cs.take n ++ List.replicate (k + 1) '*') := by
  have hstars : Dotted (List.replicate (k + 1) '*') := dotted_replicate (by decide) k
  induction h generalizing n with
  | single hc =>
    cases n with
    | zero => exact hstars
    | succ n =>
      rw [List.take_succ_cons, List.take_nil]
      exact .cons hc hstars
  | cons hc _ ih =>
    cases n with
    | zero => exact hstars
    | succ n => exact .cons hc (ih n)
  | dot hc _ ih =>
    match n with
    | 0 => exact hstars
    | 1 => exact .cons hc hstars
    | n + 2 => exact .dot hc (ih n)

theorem Dotted.starDelimiters (h : Dotted cs) :
    Dotted (cs.map fun c => if c = Envelope.delimiter then '*' else c) := by
  have hatom : ∀ c, atom.has c → atom.has (if c = Envelope.delimiter then '*' else c) := by
    intro c hc
    split
    · decide
    · exact hc
  induction h with
  | single hc => exact .single (hatom _ hc)
  | cons hc _ ih => exact .cons (hatom _ hc) ih
  | dot hc _ ih => exact .dot (hatom _ hc) ih

/-- The local part of a mask. -/
theorem Dotted.mask (h : Dotted cs) :
    Dotted ((hiddenLocal cs).map fun c => if c = Envelope.delimiter then '*' else c) := by
  refine Dotted.starDelimiters ?_
  unfold hiddenLocal
  split
  · exact h.take_stars _ 0
  · exact h.take_stars _ 4

/-! ## Addresses -/

/-- The pattern behind the at sign, up to the end of the text. -/
def hostName : Shape CodeSet Look :=
  .cat (.rep (.cat (.take alnum) (.cat labelEnd (.take (.single '.')))) 1 none)
    (.cat (.take alnum) labelEnd)

theorem host_matches_iff :
    host.Matches cs i j ↔ hostName.Matches cs i j ∧ (Shape.test Look.textEnd).Matches cs j j := by
  constructor
  · rintro ⟨k, hlabels, l, halnum, m, hlabel, rfl, hend⟩
    exact ⟨⟨k, hlabels, l, halnum, hlabel⟩, rfl, hend⟩
  · rintro ⟨⟨k, hlabels, l, halnum, hlabel⟩, hend⟩
    exact ⟨k, hlabels, l, halnum, j, hlabel, hend⟩

/-- The two parts of an address. -/
structure Parts (cs front domain : List Char) : Prop where
  eq : cs = front ++ '@' :: domain
  dotted : Dotted front
  host : domain ∈ hostName.language

theorem parts_of_occurs (h : occurs shape cs) : ∃ front domain, Parts cs front domain := by
  obtain ⟨k, hfront, hat, hhost⟩ := exists_matches h
  obtain ⟨hk, hgetElem⟩ := List.getElem?_eq_some_iff.1 hat
  obtain ⟨front, hmem, hcs⟩ := hfront.exists_word
  obtain ⟨domain, hmem', hrest⟩ := (host_matches_iff.1 hhost).1.exists_word
  rw [List.drop_length, List.append_nil] at hrest
  refine ⟨front, domain, ?_, mem_front_iff_dotted.1 hmem, hmem'⟩
  rw [← List.drop_zero (l := cs), hcs, List.drop_eq_getElem_cons hk, hgetElem, hrest]

theorem occurs_of_parts {front : List Char} (h : Parts cs front domain) : occurs shape cs := by
  obtain ⟨rfl, hdotted, hdomain⟩ := h
  have hfront := Shape.matches_of_mem_language (by decide) (mem_front_iff_dotted.2 hdotted) []
    ('@' :: domain)
  have hhost := Shape.matches_of_mem_language (by decide) hdomain (front ++ ['@']) []
  rw [List.nil_append, List.length_nil, Nat.zero_add] at hfront
  rw [List.append_nil, List.append_assoc, List.singleton_append, List.length_append,
    List.length_singleton] at hhost
  have hlength : front.length + 1 + domain.length = (front ++ '@' :: domain).length := by
    rw [List.length_append, List.length_cons, Nat.add_right_comm, Nat.add_assoc]
  rw [hlength] at hhost
  have hat : (Shape.take (.single '@')).Matches (front ++ '@' :: domain) front.length
      (front.length + 1) := by
    refine ⟨rfl, '@', ?_, by decide⟩
    rw [List.getElem?_append_right (Nat.le_refl _), Nat.sub_self]
    rfl
  have hend : (Shape.test Look.textEnd).Matches (front ++ '@' :: domain)
      (front ++ '@' :: domain).length (front ++ '@' :: domain).length := by
    refine ⟨rfl, Nat.le_refl _, ?_⟩
    rw [List.getElem?_eq_none (Nat.le_refl _)]
    rfl
  obtain ⟨k, hword, hmore⟩ := hfront
  have hmatch : shape.Matches (front ++ '@' :: domain) 0 (front ++ '@' :: domain).length :=
    ⟨0, ⟨rfl, Nat.zero_le _, rfl⟩, 0, rfl, k, hword, front.length, hmore, front.length + 1, hat,
      host_matches_iff.2 ⟨hhost, hend⟩⟩
  exact Pattern.occurs_iff.2 ⟨0, _, Nat.zero_le _, hmatch⟩

/-- **Addresses** are the texts with the two parts. -/
theorem accepts_email_iff :
    (MaskRule.ofKind email).Accepts text ↔ ∃ front domain, Parts text.toList front domain := by
  rw [accepts_iff (by decide)]
  exact ⟨parts_of_occurs, fun ⟨_, _, h⟩ => occurs_of_parts h⟩

namespace Parts

variable {front : List Char}

theorem accepts (h : Parts text.toList front domain) : (MaskRule.ofKind email).Accepts text :=
  accepts_email_iff.2 ⟨front, domain, h⟩

/-- The parts do not overlap: neither of them has an at sign, and the second one has no delimiter. -/
theorem notMem (h : Parts text.toList front domain) :
    '@' ∉ front ∧ front ≠ [] ∧ domain ≠ [] ∧ '@' ∉ domain ∧ Envelope.delimiter ∉ domain := by
  obtain ⟨front', domain', htext, hrest⟩ := exists_parts_of_accepts h.accepts
  obtain ⟨rfl, -, rfl⟩ :=
    (List.append_cons_inj_of_notMem hrest.1 hrest.2.2.2.1).1 (htext.symm.trans h.eq)
  exact hrest

/-- The mask of an address. -/
theorem mask {m : Masker} (hm : m.Faithful) (h : Parts text.toList front domain) :
    (Masker.mask (.ofKind email) text m).1 =
      .ok (starDelimiters (String.ofList (hiddenLocal front ++ '@' :: domain))) := by
  obtain ⟨hat, hfront, hdomain, hat', -⟩ := h.notMem
  exact mask_of_parts hm h.accepts h.eq hat hfront hdomain hat'

end Parts

/-! ## Envelopes of addresses -/

/-- Every character may stand in a word of a local part. -/
def Atoms (text : String) : Prop := ∀ c ∈ text.toList, atom.has c

instance (text : String) : Decidable (Atoms text) :=
  decidable_of_iff (text.toList.all atom.has) List.all_eq_true

theorem Atoms.append {s t : String} (hs : Atoms s) (ht : Atoms t) : Atoms (s ++ t) := by
  intro c hc
  rw [String.toList_append, List.mem_append] at hc
  exact hc.elim (hs c) (ht c)

theorem atom_has_symbol {n : Nat} (h : n < 64) : atom.has (Base64Url.symbol n) := by
  revert n
  decide

theorem atoms_encode (bytes : List UInt8) : Atoms (Base64Url.encode bytes) := by
  intro c hc
  rw [Base64Url.encode, String.toList_ofList] at hc
  obtain ⟨n, hn, rfl⟩ := List.mem_map.1 hc
  exact atom_has_symbol (Base64Url.sextets_lt bytes n hn)

theorem atoms_toWire (e : Envelope) : Atoms e.toWire := by
  have hsentinel : Atoms Envelope.sentinel := by decide
  have hbar : Atoms "|" := by decide
  have hcode : Atoms e.suite.code := by cases e.suite <;> decide
  exact (((((((((hsentinel.append hbar).append hcode).append hbar).append (atoms_encode _)).append
    hbar).append (atoms_encode _)).append hbar).append (atoms_encode _)).append hbar)

theorem exists_toList_toWire (e : Envelope) :
    ∃ rest, e.toWire.toList = '_' :: 'm' :: 'a' :: 's' :: 'k' :: rest := by
  rw [Envelope.toWire, Envelope.sentinel]
  simp only [String.toList_append]
  exact ⟨_, rfl⟩

/-- The first characters of the sentinel and five stars, whatever comes behind them. -/
theorem hiddenLocal_toWire (e : Envelope) (xs : List Char) :
    hiddenLocal (e.toWire.toList ++ xs) = "_mas*****".toList := by
  obtain ⟨rest, hrest⟩ := exists_toList_toWire e
  have hshown : shownOfLocal (e.toWire.toList ++ xs).length = 4 := by
    rw [hrest, shownOfLocal, if_neg, if_neg]
    · simp
    · simp
  rw [hiddenLocal, hshown, hrest]
  rfl

section

variable {front : List Char}

/-- **The envelope of an address is an address** at the same host. -/
theorem Parts.envelope (h : Parts text.toList front domain) (e : Envelope) :
    ∃ back, Parts
      (e.toWire ++ starDelimiters (String.ofList (hiddenLocal front ++ '@' :: domain))).toList
      (e.toWire.toList ++ back) domain := by
  have hdomain : Envelope.delimiter ∉ '@' :: domain := by
    rintro (_ | ⟨_, hmem⟩)
    exact h.notMem.2.2.2.2 hmem
  refine ⟨_, ?_, h.dotted.mask.append_left (atoms_toWire e), h.host⟩
  rw [String.toList_append, toList_starDelimiters, String.toList_ofList, List.map_append,
    map_starDelimiter hdomain, List.append_assoc]

/-- The mask of the envelope shows the sentinel and the host. -/
theorem Parts.mask_envelope {m : Masker} {e : Envelope} {back : List Char} (hm : m.Faithful)
    (h : Parts text.toList (e.toWire.toList ++ back) domain) :
    (Masker.mask (.ofKind email) text m).1 = .ok ("_mas*****@" ++ String.ofList domain) := by
  have hdelimiter : Envelope.delimiter ∉ "_mas*****@".toList ++ domain := by
    rw [List.mem_append]
    rintro (hmem | hmem)
    · revert hmem
      decide
    · exact h.notMem.2.2.2.2 hmem
  have hcs : "_mas*****".toList ++ '@' :: domain = "_mas*****@".toList ++ domain := rfl
  rw [h.mask hm, hiddenLocal_toWire, hcs,
    starDelimiters_of_notMem (by rwa [String.toList_ofList]), String.ofList_append, String.ofList_toList]

end

end FieldSeal.SensitiveKind.Email
