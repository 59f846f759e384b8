import SurfaceBridge.Proofs.Unicode.Composing
import SurfaceBridge.Url.Host

set_option autoImplicit false

/-! # What a host may hold

A delimiter is a character at which a URL is split, or that is dropped from it: where a host holds
one, it is not what a URL takes for its host. No text with a delimiter is a host, but that an address
of version 6 stands in brackets and has colons inside (`shape_of_parse`).

For a name this has to be followed through decoding, replacing and composing, because the characters
that no name may hold are looked for only after these. A delimiter comes through each of them: it is
no part of an encoded byte, stands for itself, and composes with nothing.
-/

namespace SurfaceBridge

namespace Url

/-- The characters at which a URL is split, and those that are dropped from it. -/
def isDelimiter (c : Char) : Bool :=
  ['\t', '\n', '\r', '#', '/', ':', '?', '@', '[', '\\', ']'].contains c

/-- What makes a delimiter come through all that is done to a name, and not be allowed there. -/
theorem spec_of_isDelimiter {c : Char} (h : isDelimiter c = true) :
    Unicode.isInert c.toNat = true ∧ hexValue? c = none ∧ c ≠ '%' ∧ c.toLower = c
      ∧ DomainName.isForbidden c = true := by
  simp only [isDelimiter, List.contains_eq_mem, List.mem_cons, List.not_mem_nil, or_false,
    decide_eq_true_eq] at h
  rcases h with rfl | rfl | rfl | rfl | rfl | rfl | rfl | rfl | rfl | rfl | rfl <;> decide

/-! ## Decoding -/

theorem utf8EncodeChar_of_lt {c : Char} (h : c.toNat < 0x80) :
    String.utf8EncodeChar c = [UInt8.ofNat c.toNat] := by
  have hval : c.val.toNat ≤ 127 := Nat.le_of_lt_succ h
  unfold String.utf8EncodeChar
  exact if_pos hval

/-- The byte of a character of ASCII is in no other character. -/
theorem eq_of_mem_utf8EncodeChar {c d : Char} (h : c.toNat < 0x80)
    (mem : UInt8.ofNat c.toNat ∈ String.utf8EncodeChar d) : c = d := by
  have hbyte : ∀ n : Nat, UInt8.ofNat c.toNat = UInt8.ofNat n → c.toNat = n % 256 := by
    intro n hn
    have hnat := congrArg UInt8.toNat hn
    rw [UInt8.toNat_ofNat', UInt8.toNat_ofNat'] at hnat
    omega
  unfold String.utf8EncodeChar at mem
  dsimp only at mem
  split at mem
  · have heq : c.toNat = d.val.toNat % 256 := hbyte _ (List.mem_singleton.1 mem)
    have hnat : c.toNat = d.toNat := by
      show c.toNat = d.val.toNat
      omega
    exact Char.toNat_inj.1 hnat
  · -- all bytes of any other character are above ASCII
    exfalso
    split at mem
    · rcases List.mem_pair.1 mem with hb | hb <;> have hb := hbyte _ hb <;> omega
    · split at mem
      · simp only [List.mem_cons, List.not_mem_nil, or_false] at mem
        rcases mem with hb | hb | hb <;> have hb := hbyte _ hb <;> omega
      · simp only [List.mem_cons, List.not_mem_nil, or_false] at mem
        rcases mem with hb | hb | hb | hb <;> have hb := hbyte _ hb <;> omega

/-- A character that is no part of an encoded byte stands for its own byte. -/
theorem mem_decodeBytes {c : Char} {s : List Char} (ascii : c.toNat < 0x80)
    (digit : hexValue? c = none) (mark : c ≠ '%') (h : c ∈ s) :
    UInt8.ofNat c.toNat ∈ decodeBytes s := by
  fun_induction decodeBytes s with
  | case1 => cases h
  | case2 a b rest high low hb ha ih =>
      refine List.mem_cons_of_mem _ (ih ?_)
      rcases List.mem_cons.1 h with rfl | h
      · exact absurd rfl mark
      · rcases List.mem_cons.1 h with rfl | h
        · rw [digit] at ha
          cases ha
        · rcases List.mem_cons.1 h with rfl | h
          · rw [digit] at hb
            cases hb
          · exact h
  | case3 a b rest none ih =>
      refine List.mem_cons_of_mem _ (ih ?_)
      exact (List.mem_cons.1 h).resolve_left mark
  | case4 d rest other ih =>
      refine List.mem_append.2 ?_
      rcases List.mem_cons.1 h with rfl | h
      · rw [utf8EncodeChar_of_lt ascii]
        exact Or.inl (List.mem_singleton.2 rfl)
      · exact Or.inr (ih h)

theorem mem_decodeChars {c : Char} {s decoded : List Char} (ascii : c.toNat < 0x80)
    (digit : hexValue? c = none) (mark : c ≠ '%') (h : c ∈ s)
    (ok : decodeChars s = some decoded) : c ∈ decoded := by
  unfold decodeChars at ok
  split at ok
  · obtain ⟨text, htext, rfl⟩ := Option.map_eq_some_iff.1 ok
    have hbytes : text.toList.flatMap String.utf8EncodeChar = decodeBytes s := by
      unfold String.fromUTF8? at htext
      split at htext
      · cases htext
        have hencode : (String.fromUTF8 ⟨(decodeBytes s).toArray⟩ ‹_›).toList.utf8Encode
            = ⟨(decodeBytes s).toArray⟩ := String.utf8Encode_toList
        have hdata := congrArg ByteArray.data hencode
        rw [List.utf8Encode, List.data_toByteArray] at hdata
        exact congrArg Array.toList hdata
      · cases htext
    have hmem := mem_decodeBytes ascii digit mark h
    rw [← hbytes] at hmem
    obtain ⟨d, hd, hbyte⟩ := List.mem_flatMap.1 hmem
    rw [eq_of_mem_utf8EncodeChar ascii hbyte]
    exact hd
  · cases ok
    exact h

/-! ## Names -/

theorem mem_standFor {c : Char} {s replaced : List Char} (ascii : c.toNat < 0x80)
    (small : c.toLower = c) (h : c ∈ s) (ok : DomainName.standFor s = some replaced) :
    c ∈ replaced := by
  induction s generalizing replaced with
  | nil => cases h
  | cons d s ih =>
      unfold DomainName.standFor at ok
      split at ok
      · rename_i targets rest htargets hrest
        cases ok
        refine List.mem_append.2 ?_
        rcases List.mem_cons.1 h with rfl | h
        · unfold DomainName.standsFor at htargets
          rw [if_pos ascii, small] at htargets
          cases htargets
          exact Or.inl (List.mem_singleton.2 rfl)
        · exact Or.inr (ih h hrest)
      · cases ok

/-- A text with a delimiter is no domain name. -/
theorem toAscii_eq_none {c : Char} {s : List Char} (delimiter : isDelimiter c = true)
    (h : c ∈ s) : DomainName.toAscii s = none := by
  obtain ⟨hinert, -, -, hsmall, hforbidden⟩ := spec_of_isDelimiter delimiter
  unfold DomainName.toAscii
  cases hreplaced : DomainName.standFor s with
  | none => rfl
  | some replaced =>
      have hmem : c ∈ Unicode.composed replaced :=
        Unicode.mem_composed hinert
          (mem_standFor (Unicode.lt_of_isInert hinert) hsmall h hreplaced)
      dsimp only
      rw [if_pos (List.any_eq_true.2 ⟨c, hmem, hforbidden⟩)]

/-! ## Addresses of version 6 -/

namespace Ipv6

/-- Whether a character may stand in a piece of an address: it is a digit of base 16 or a dot. -/
def isPieceChar (c : Char) : Bool := (hexValue? c).isSome || c = '.'

theorem isPieceChar_of_isDigit {c : Char} (h : c.isDigit = true) : isPieceChar c = true := by
  simp [isPieceChar, hexValue?, h]

theorem not_isDelimiter_of_isPieceChar {c : Char} (h : isPieceChar c = true) :
    isDelimiter c = false := by
  cases hd : isDelimiter c with
  | false => rfl
  | true =>
      have hdot : c ≠ '.' := by
        rintro rfl
        cases hd
      simp [isPieceChar, (spec_of_isDelimiter hd).2.1, hdot] at h

/-- What each step of a fold that gives a result needs of its character, all characters have. -/
theorem forall_of_isSome_foldl {step : Option Nat → Char → Option Nat} {p : Char → Prop}
    (needs : ∀ start c, (step start c).isSome = true → start.isSome = true ∧ p c) (s : List Char) :
    ∀ start, (s.foldl step start).isSome = true → start.isSome = true ∧ ∀ c ∈ s, p c := by
  induction s with
  | nil => exact fun start h => ⟨h, by simp⟩
  | cons c s ih =>
      intro start h
      obtain ⟨hstep, hs⟩ := ih (step start c) h
      obtain ⟨hstart, hc⟩ := needs start c hstep
      exact ⟨hstart, List.forall_mem_cons.2 ⟨hc, hs⟩⟩

theorem isPieceChar_of_piece? {s : List Char} {n : Nat} (ok : piece? s = some n) :
    ∀ c ∈ s, isPieceChar c = true := by
  unfold piece? at ok
  split at ok
  · cases ok
  · refine (forall_of_isSome_foldl ?_ s (some 0) (Option.isSome_of_eq_some ok)).2
    intro number c h
    split at h
    · rename_i m d hd
      exact ⟨rfl, by simp [isPieceChar, hd]⟩
    · cases h

theorem isPieceChar_of_byte? {s : List Char} {n : Nat} (ok : byte? s = some n) :
    ∀ c ∈ s, isPieceChar c = true := by
  unfold byte? at ok
  dsimp only at ok
  intro c hc
  split at ok
  · cases hc
  · rw [List.mem_singleton.1 hc]
    decide
  · simp at ok
  · split at ok
    · rename_i h
      rw [Bool.and_eq_true] at h
      exact isPieceChar_of_isDigit (List.all_eq_true.1 h.1 c hc)
    · cases ok

/-- A character of a text is the one at which the text is split, or in one of the parts. -/
theorem mem_splitOnP (sep : Char) {c : Char} {s : List Char} (h : c ∈ s) :
    c = sep ∨ ∃ part ∈ s.splitOnP (· = sep), c ∈ part := by
  induction s with
  | nil => cases h
  | cons d s ih =>
      rw [List.splitOnP_cons_eq_if_modifyHead]
      split
      · rename_i hd
        rcases List.mem_cons.1 h with rfl | h
        · exact Or.inl (of_decide_eq_true hd)
        · exact (ih h).imp_right fun ⟨part, hpart, hc⟩ => ⟨part, List.mem_cons_of_mem _ hpart, hc⟩
      · obtain ⟨first, others, hparts⟩ :=
          List.exists_cons_of_ne_nil (List.splitOnP_ne_nil (fun x => decide (x = sep)) s)
        rw [hparts] at ih ⊢
        rcases List.mem_cons.1 h with rfl | h
        · exact Or.inr ⟨c :: first, by simp, by simp⟩
        · rcases ih h with heq | ⟨part, hpart, hc⟩
          · exact Or.inl heq
          · rcases List.mem_cons.1 hpart with rfl | hpart
            · exact Or.inr ⟨d :: part, by simp, by simp [hc]⟩
            · exact Or.inr ⟨part, by simp [hpart], hc⟩

theorem isPieceChar_of_dotted? {s : List Char} {ns : List Nat} (ok : dotted? s = some ns) :
    ∀ c ∈ s, isPieceChar c = true := by
  have key : ∀ (parts : List (List Char)) (bytes : List Nat), parts.mapM byte? = some bytes →
      ∀ part ∈ parts, ∃ n, byte? part = some n := by
    intro parts
    induction parts with
    | nil => simp
    | cons first parts ih =>
        intro bytes h part hpart
        rw [List.mapM_cons] at h
        obtain ⟨n, hn, h⟩ := Option.bind_eq_some_iff.1 h
        obtain ⟨others, hothers, -⟩ := Option.bind_eq_some_iff.1 h
        rcases List.mem_cons.1 hpart with rfl | hpart
        · exact ⟨n, hn⟩
        · exact ih others hothers part hpart
  intro c hc
  rcases mem_splitOnP '.' hc with rfl | ⟨part, hpart, hc⟩
  · decide
  · unfold dotted? at ok
    split at ok
    · rename_i bytes
      obtain ⟨n, hn⟩ := key _ _ bytes part hpart
      exact isPieceChar_of_byte? hn c hc
    · cases ok

theorem isPieceChar_of_pieces? {parts : List (List Char)} {ns : List Nat}
    (ok : pieces? parts = some ns) : ∀ part ∈ parts, ∀ c ∈ part, isPieceChar c = true := by
  fun_induction pieces? parts generalizing ns with
  | case1 => simp
  | case2 s dot => simpa using isPieceChar_of_dotted? ok
  | case3 s dot =>
      obtain ⟨n, hn, -⟩ := Option.map_eq_some_iff.1 ok
      simpa using isPieceChar_of_piece? hn
  | case4 s rest more others n hothers hn ih =>
      intro part hpart
      rcases List.mem_cons.1 hpart with rfl | hpart
      · exact isPieceChar_of_piece? hn
      · exact ih hothers part hpart
  | case5 => cases ok

theorem isPieceChar_of_side? {s : List Char} {ns : List Nat} (ok : side? s = some ns) :
    ∀ c ∈ s, c = ':' ∨ isPieceChar c = true := by
  intro c hc
  unfold side? at ok
  split at ok
  · rename_i hempty
    rw [List.isEmpty_iff.1 hempty] at hc
    cases hc
  · rcases mem_splitOnP ':' hc with heq | ⟨part, hpart, hc⟩
    · exact Or.inl heq
    · exact Or.inr (isPieceChar_of_pieces? ok part hpart c hc)

theorem eq_of_splitGap {s before after : List Char} (h : splitGap s = some (before, after)) :
    s = before ++ ':' :: ':' :: after := by
  fun_induction splitGap s generalizing before with
  | case1 => cases h
  | case2 rest =>
      cases h
      rfl
  | case3 c rest other ih =>
      obtain ⟨⟨front, back⟩, hsplit, heq⟩ := Option.map_eq_some_iff.1 h
      cases heq
      rw [ih hsplit]
      rfl

/-- An address is written with digits, dots and colons. -/
theorem isPieceChar_of_parse {s : List Char} {a : Ipv6} (ok : parse s = some a) :
    ∀ c ∈ s, c = ':' ∨ isPieceChar c = true := by
  unfold parse at ok
  split at ok
  · split at ok
    · cases ok
    · rename_i hside
      exact isPieceChar_of_side? hside
  · rename_i before after hgap
    split at ok
    · cases ok
    · split at ok
      · rename_i hbefore hafter
        intro c hc
        rw [eq_of_splitGap hgap] at hc
        rcases List.mem_append.1 hc with hc | hc
        · exact isPieceChar_of_side? hbefore c hc
        · rcases List.mem_cons.1 hc with rfl | hc
          · exact Or.inl rfl
          · rcases List.mem_cons.1 hc with rfl | hc
            · exact Or.inl rfl
            · exact isPieceChar_of_side? hafter c hc
      · cases ok

end Ipv6

/-! ## Hosts -/

namespace Host

/-- The texts that can be hosts: those without delimiters, and those in brackets with no delimiters
but colons inside. -/
inductive Shape : List Char → Prop where
  | plain {s : List Char} (none : ∀ c ∈ s, isDelimiter c = false) : Shape s
  | bracketed {inner : List Char}
      (colons : ∀ c ∈ inner, c = ':' ∨ isDelimiter c = false) : Shape ('[' :: (inner ++ [']']))

theorem parse_nil : parse [] = .error .emptyHost := rfl

/-- Outside brackets there are no delimiters in a host. -/
theorem exists_error_of_mem {c : Char} {s : List Char} (delimiter : isDelimiter c = true)
    (h : c ∈ s) (bracket : s.head? ≠ some '[') : ∃ err, parse s = .error err := by
  obtain ⟨hinert, hdigit, hmark, -, -⟩ := spec_of_isDelimiter delimiter
  unfold parse
  split
  · exact absurd rfl bracket
  · cases hdecoded : decodeChars s with
    | none => exact ⟨_, rfl⟩
    | some decoded =>
        have hmem := mem_decodeChars (Unicode.lt_of_isInert hinert) hdigit hmark h hdecoded
        dsimp only
        rw [toAscii_eq_none delimiter hmem]
        exact ⟨_, rfl⟩

/-- What is in brackets ends with them. -/
theorem getLast?_of_parse {s : List Char} {host : Host} (ok : parse ('[' :: s) = .ok host) :
    s.getLast? = some ']' := by
  have ok : parseBracketed s = .ok host := ok
  unfold parseBracketed at ok
  split at ok
  · assumption
  · cases ok

theorem shape_of_parse {s : List Char} {host : Host} (ok : parse s = .ok host) : Shape s := by
  by_cases bracket : s.head? = some '['
  · obtain ⟨rest, rfl⟩ : ∃ rest, s = '[' :: rest := List.head?_eq_some_iff.1 bracket
    have hlast := getLast?_of_parse ok
    obtain ⟨inner, rfl⟩ := List.getLast?_eq_some_iff.1 hlast
    have ok : parseBracketed (inner ++ [']']) = .ok host := ok
    unfold parseBracketed at ok
    rw [hlast, List.dropLast_concat] at ok
    cases haddress : Ipv6.parse inner with
    | none =>
        rw [haddress] at ok
        cases ok
    | some address =>
        refine .bracketed fun c hc => ?_
        exact (Ipv6.isPieceChar_of_parse haddress c hc).imp_right
          Ipv6.not_isDelimiter_of_isPieceChar
  · refine .plain fun c hc => ?_
    cases hd : isDelimiter c with
    | false => rfl
    | true =>
        obtain ⟨err, herr⟩ := exists_error_of_mem hd hc bracket
        rw [herr] at ok
        cases ok

end Host

end Url

end SurfaceBridge
