import Mathlib.Data.List.TakeWhile
import SurfaceBridge.Proofs.Url.Hosts
import SurfaceBridge.Url.Parser

set_option autoImplicit false

/-! # Reading what has been put together

A text that is put together of a scheme, a host, a port and a path is taken apart at the same places
if what stands for the host is a host by itself (`parse_of_host`). If it is none, the text is no URL
(`exists_error_parse`), unless it holds a separator, at which the host may end too early, or which
may be dropped from it.
-/

namespace SurfaceBridge

namespace Url

/-- The delimiters that may not even stand in brackets. -/
def isSeparator (c : Char) : Bool := ['\t', '\n', '\r', '#', '/', '?', '@', '\\'].contains c

theorem spec_of_isSeparator {c : Char} (h : isSeparator c = true) :
    isDelimiter c = true ∧ c ≠ ':' ∧ c ≠ '[' ∧ c ≠ ']' ∧ c.isDigit = false := by
  simp only [isSeparator, List.contains_eq_mem, List.mem_cons, List.not_mem_nil, or_false,
    decide_eq_true_eq] at h
  rcases h with rfl | rfl | rfl | rfl | rfl | rfl | rfl | rfl <;> decide

/-- Nothing that may be a host holds a separator. -/
theorem Host.Shape.not_isSeparator {s : List Char} (h : Host.Shape s) :
    ∀ c ∈ s, isSeparator c = false := by
  intro c hc
  cases hsep : isSeparator c with
  | false => rfl
  | true =>
      obtain ⟨hdelimiter, hcolon, hopen, hclose, -⟩ := spec_of_isSeparator hsep
      cases h with
      | plain none => exact absurd (none c hc) (by simp [hdelimiter])
      | bracketed colons =>
          rcases List.mem_cons.1 hc with rfl | hc
          · exact absurd rfl hopen
          · rcases List.mem_append.1 hc with hc | hc
            · rcases colons c hc with rfl | hnone
              · exact absurd rfl hcolon
              · exact absurd hnone (by simp [hdelimiter])
            · exact absurd (List.mem_singleton.1 hc) hclose

/-! ## Where a host ends -/

theorem splitHost_of_plain {s : List Char} (none : ∀ c ∈ s, isDelimiter c = false)
    (rest : List Char) : splitHost false (s ++ ':' :: rest) = (s, ':' :: rest) := by
  induction s with
  | nil => rfl
  | cons c s ih =>
      have hc : isDelimiter c = false := none c (by simp)
      have hcolon : c ≠ ':' := by
        rintro rfl
        cases hc
      have hopen : c ≠ '[' := by
        rintro rfl
        cases hc
      rw [List.cons_append, splitHost]
      simp only [hcolon, hopen, false_and, if_false, ite_self]
      rw [ih fun d hd => none d (by simp [hd])]

/-- Inside brackets, colons do not end a host. -/
theorem splitHost_of_inside {s : List Char} (closed : ∀ c ∈ s, c ≠ ']') (rest : List Char) :
    splitHost true (s ++ ']' :: ':' :: rest) = (s ++ [']'], ':' :: rest) := by
  induction s with
  | nil => rfl
  | cons c s ih =>
      have hclose : c ≠ ']' := closed c (by simp)
      rw [List.cons_append, splitHost]
      simp only [hclose, Bool.not_true, Bool.false_eq_true, and_false, if_false, ite_self]
      rw [ih fun d hd => closed d (by simp [hd])]
      rfl

/-- A host ends at the first colon behind it. -/
theorem splitHost_of_shape {s : List Char} (h : Host.Shape s) (rest : List Char) :
    splitHost false (s ++ ':' :: rest) = (s, ':' :: rest) := by
  cases h with
  | plain none => exact splitHost_of_plain none rest
  | @bracketed inner colons =>
      have hinner : ∀ c ∈ inner, c ≠ ']' := by
        rintro c hc rfl
        rcases colons _ hc with heq | hnone
        · cases heq
        · cases hnone
      have hsplit := splitHost_of_inside hinner rest
      rw [List.cons_append, List.append_assoc, splitHost, if_neg (by decide)]
      simp only [List.cons_append, List.nil_append, if_true, hsplit]

theorem splitHost_of_digits {digits : List Char} (isDigit : ∀ c ∈ digits, c.isDigit = true) :
    splitHost true digits = (digits, []) := by
  induction digits with
  | nil => rfl
  | cons d digits ih =>
      have hclose : d ≠ ']' := by
        rintro rfl
        exact absurd (isDigit ']' (by simp)) (by decide)
      rw [splitHost]
      simp only [hclose, Bool.not_true, Bool.false_eq_true, and_false, if_false, ite_self]
      rw [ih fun c hc => isDigit c (by simp [hc])]

/-- The host in any text in front of a port ends at a colon in this text, at its end, or not at
all. -/
theorem splitHost_cases {digits : List Char} (isDigit : ∀ c ∈ digits, c.isDigit = true)
    (isInside : Bool) (s : List Char) :
    (∃ host rest, s = host ++ ':' :: rest
        ∧ splitHost isInside (s ++ ':' :: digits) = (host, ':' :: (rest ++ ':' :: digits)))
      ∨ splitHost isInside (s ++ ':' :: digits) = (s, ':' :: digits)
      ∨ splitHost isInside (s ++ ':' :: digits) = (s ++ ':' :: digits, []) := by
  induction s generalizing isInside with
  | nil =>
      cases isInside with
      | false => exact Or.inr (Or.inl rfl)
      | true =>
          refine Or.inr (Or.inr ?_)
          rw [List.nil_append, splitHost, if_neg (by simp)]
          simp only [show ((':' : Char) = '[') = False by decide,
            show ((':' : Char) = ']') = False by decide, if_false, splitHost_of_digits isDigit]
  | cons c s ih =>
      rw [List.cons_append, splitHost]
      split
      · rename_i h
        exact Or.inl ⟨[], s, by rw [h.1]; rfl, by rw [h.1]⟩
      · dsimp only
        rcases ih (if c = '[' then true else if c = ']' then false else isInside) with
          ⟨host, rest, rfl, hsplit⟩ | hsplit | hsplit
        · exact Or.inl ⟨c :: host, rest, rfl, by rw [hsplit]⟩
        · exact Or.inr (Or.inl (by rw [hsplit]))
        · exact Or.inr (Or.inr (by rw [hsplit]))

theorem drop_length_takeWhile {α : Type} (p : α → Bool) (s : List α) :
    s.drop (s.takeWhile p).length = s.dropWhile p := by
  have hdrop : (s.takeWhile p ++ s.dropWhile p).drop (s.takeWhile p).length = s.dropWhile p :=
    List.drop_left
  rwa [List.takeWhile_append_dropWhile] at hdrop

/-! ## Ports -/

/-- The digits of a port. -/
def portText (port : UInt16) : List Char := Nat.toDigits 10 port.toNat

theorem isDigit_of_mem_portText {port : UInt16} {c : Char} (h : c ∈ portText port) :
    c.isDigit = true :=
  Nat.isDigit_of_mem_toDigits (by omega) (by omega) h

theorem portText_ne_nil (port : UInt16) : portText port ≠ [] := Nat.toDigits_ne_nil

theorem not_isSeparator_of_port {s : List Char} (separators : ∀ c ∈ s, isSeparator c = false)
    (port : UInt16) : ∀ c ∈ s ++ ':' :: portText port, isSeparator c = false := by
  intro c hc
  rcases List.mem_append.1 hc with hc | hc
  · exact separators c hc
  · rcases List.mem_cons.1 hc with rfl | hc
    · rfl
    · cases hsep : isSeparator c with
      | false => rfl
      | true =>
          have hdigit := isDigit_of_mem_portText hc
          rw [(spec_of_isSeparator hsep).2.2.2.2] at hdigit
          cases hdigit

theorem parsePort_portText (port : UInt16) :
    parsePort (portText port) = .ok (some port.toNat, []) := by
  have hdigits : (portText port).takeWhile Char.isDigit = portText port :=
    List.takeWhile_eq_self_iff.2 fun _ hc => isDigit_of_mem_portText hc
  have hvalue : (portText port).foldl (fun (n : Nat) (c : Char) => 10 * n + (c.toNat - 48)) 0
      = port.toNat := Nat.ofDigitChars_ten_toDigits
  have hlt : port.toNat < 65536 := port.toNat_lt
  unfold parsePort
  simp only [hdigits, hvalue, List.drop_length]
  rw [if_neg (by omega)]
  simp [portText_ne_nil]

/-- A port ends with the authority. -/
theorem exists_error_parsePort {s : List Char} (notDigit : ∃ c ∈ s, c.isDigit = false)
    (noBackslash : '\\' ∉ s) : ∃ err, parsePort s = .error err := by
  unfold parsePort
  simp only [drop_length_takeWhile]
  split
  · exact ⟨_, rfl⟩
  · split
    · rename_i hnil
      obtain ⟨c, hc, hdigit⟩ := notDigit
      have hall := List.dropWhile_eq_nil_iff.1 hnil c hc
      rw [hdigit] at hall
      cases hall
    · rename_i rest hcons
      refine absurd ?_ noBackslash
      exact (List.dropWhile_sublist _).subset (hcons ▸ List.mem_cons_self)
    · exact ⟨_, rfl⟩

/-! ## Authorities without a user -/

/-- The host and the port in an authority without a user, and what is behind the digits of the
port. -/
def hostAndPort (authority : List Char) : Except UrlError (Host × Option Nat × List Char) :=
  let (hostText, portText) := splitHost false authority
  if hostText.isEmpty then .error .emptyHost
  else
    match Host.parse hostText with
    | .error err => .error err
    | .ok host =>
      match portText with
      | [] => .ok (host, none, [])
      | _ :: digits => (parsePort digits).map fun (port, rest) => (host, port, rest)

theorem hostAndPort_of_host {s : List Char} {host : Host} (ok : Host.parse s = .ok host)
    (port : UInt16) :
    hostAndPort (s ++ ':' :: portText port) = .ok (host, some port.toNat, []) := by
  have hs : s ≠ [] := by
    rintro rfl
    rw [Host.parse_nil] at ok
    cases ok
  unfold hostAndPort
  rw [splitHost_of_shape (Host.shape_of_parse ok)]
  simp [hs, ok, parsePort_portText, Except.map]

/-- What stands in front of a port and is no host is not read as one. -/
theorem exists_error_hostAndPort {s : List Char} {err : UrlError} (failed : Host.parse s = .error err)
    (separators : ∀ c ∈ s, isSeparator c = false) (port : UInt16) :
    ∃ err, hostAndPort (s ++ ':' :: portText port) = .error err := by
  have hdigits : ∀ c ∈ portText port, c.isDigit = true := fun _ => isDigit_of_mem_portText
  -- it is enough that what is taken for the host is none, or what is taken for the port
  have key : ∀ hostText rest, splitHost false (s ++ ':' :: portText port) = (hostText, rest) →
      ((∃ err, Host.parse hostText = .error err)
        ∨ ∃ c digits, rest = c :: digits ∧ ∃ err, parsePort digits = .error err) →
      ∃ err, hostAndPort (s ++ ':' :: portText port) = .error err := by
    intro hostText rest hsplit h
    unfold hostAndPort
    rw [hsplit]
    dsimp only
    split
    · exact ⟨_, rfl⟩
    · rcases h with ⟨err, herr⟩ | ⟨c, digits, rfl, err, herr⟩
      · rw [herr]
        exact ⟨_, rfl⟩
      · cases Host.parse hostText with
        | error err' => exact ⟨_, rfl⟩
        | ok host =>
            dsimp only
            rw [herr]
            exact ⟨_, rfl⟩
  rcases splitHost_cases hdigits false s with ⟨host, rest, rfl, hsplit⟩ | hsplit | hsplit
  · refine key _ _ hsplit (Or.inr ⟨':', _, rfl, exists_error_parsePort ⟨':', by simp, rfl⟩ ?_⟩)
    intro hmem
    rcases List.mem_append.1 hmem with hmem | hmem
    · exact absurd (separators '\\' (by simp [hmem])) (by decide)
    · rcases List.mem_cons.1 hmem with heq | hmem
      · cases heq
      · exact absurd (hdigits _ hmem) (by decide)
  · exact key _ _ hsplit (Or.inl ⟨err, failed⟩)
  · refine key _ _ hsplit (Or.inl ?_)
    by_cases bracket : (s ++ ':' :: portText port).head? = some '['
    · -- the last character is a digit of the port and no bracket
      obtain ⟨rest, hrest⟩ := List.head?_eq_some_iff.1 bracket
      cases hparse : Host.parse (s ++ ':' :: portText port) with
      | error err => exact ⟨err, rfl⟩
      | ok host =>
          rw [hrest] at hparse
          have hlast := Host.getLast?_of_parse hparse
          have hwhole : (s ++ ':' :: portText port).getLast? = some ']' := by
            rw [hrest, List.getLast?_cons, hlast]
            rfl
          rw [List.getLast?_append, List.getLast?_cons,
            List.getLast?_eq_getLast_of_ne_nil (portText_ne_nil port)] at hwhole
          have hclose : (portText port).getLast (portText_ne_nil port) = ']' := by
            simpa using hwhole
          exact absurd (hdigits _ (hclose ▸ List.getLast_mem _)) (by decide)
    · exact Host.exists_error_of_mem (c := ':') rfl (by simp) bracket

/-- An authority that holds nothing at which it could end has no user and ends at the path. -/
theorem parseAuthority_eq (scheme : String) {authority path : List Char}
    (separators : ∀ c ∈ authority, isSeparator c = false) :
    parseAuthority true scheme (authority ++ '/' :: path)
      = (hostAndPort authority).map fun (host, port, rest) =>
          withPath true
            { ofScheme scheme with
              host := some host
              port := if port = defaultPort? scheme then none else port }
            (pathBehindAuthority true) (rest ++ '/' :: path) := by
  have hends : ∀ c ∈ authority, (!endsAuthority true c) = true := by
    intro c hc
    have hsep := separators c hc
    simp only [isSeparator, List.contains_eq_mem, List.mem_cons, List.not_mem_nil, or_false,
      decide_eq_false_iff_not, not_or] at hsep
    simp [endsAuthority, hsep]
  have htake : (authority ++ '/' :: path).takeWhile (!endsAuthority true ·) = authority := by
    rw [List.takeWhile_append_of_pos hends, List.takeWhile_cons_of_neg (by decide),
      List.append_nil]
  have hat : authority.contains '@' = false := by
    rw [List.contains_eq_mem, decide_eq_false_iff_not]
    exact fun hmem => absurd (separators '@' hmem) (by decide)
  have huser : splitUser authority = none := by
    unfold splitUser
    rw [hat]
    rfl
  have hnobody : parseUser [] = ("", none) := rfl
  unfold parseAuthority hostAndPort
  simp only [htake, hat, huser, hnobody, List.drop_left, Option.getD_none]
  rcases splitHost false authority with ⟨hostText, portText⟩
  cases hostText with
  | nil => rfl
  | cons c hostText =>
      dsimp only
      cases Host.parse (c :: hostText) with
      | error err => rfl
      | ok host =>
          cases portText with
          | nil => rfl
          | cons colon digits =>
              dsimp only
              cases parsePort digits <;> rfl

/-! ## Paths -/

/-- What is kept of a path at the end of a text. -/
def keptPath (path : List Char) : List Char :=
  (path.reverse.dropWhile fun c => decide (c.toNat ≤ 0x20)).reverse.filter
    fun c => c ≠ '\t' && c ≠ '\n' && c ≠ '\r'

theorem mem_of_mem_keptPath {c : Char} {path : List Char} (h : c ∈ keptPath path) : c ∈ path := by
  have hmem := List.mem_reverse.1 (List.mem_filter.1 h).1
  exact List.mem_reverse.1 ((List.dropWhile_sublist _).subset hmem)

/-- What can be seen of a path is kept. -/
theorem mem_keptPath {c : Char} {path : List Char} (visible : 0x20 < c.toNat) (h : c ∈ path) :
    c ∈ keptPath path := by
  refine List.mem_filter.2 ⟨List.mem_reverse.2 ?_, ?_⟩
  · have hmem := List.mem_reverse.2 h
    rw [← List.takeWhile_append_dropWhile (p := fun c : Char => decide (c.toNat ≤ 0x20))
      (l := path.reverse)] at hmem
    rcases List.mem_append.1 hmem with hblank | hmem
    · have hle := List.mem_takeWhile_imp hblank
      have hle : c.toNat ≤ 0x20 := of_decide_eq_true hle
      omega
    · exact hmem
  · have hne : c ≠ '\t' ∧ c ≠ '\n' ∧ c ≠ '\r' := by
      refine ⟨?_, ?_, ?_⟩ <;> rintro rfl <;> exact absurd visible (by decide)
    simp [hne]

/-- Cleaning leaves what is in front of a path alone. -/
theorem cleaned_eq {first : Char} {front path : List Char} (visible : 0x20 < first.toNat)
    (kept : ∀ c ∈ first :: front, c ≠ '\t' ∧ c ≠ '\n' ∧ c ≠ '\r') :
    cleaned (first :: front ++ '/' :: path) = first :: front ++ '/' :: keptPath path := by
  have hfirst : ¬first.toNat ≤ 0x20 := by omega
  have hend : ((first :: front ++ '/' :: path).reverse.dropWhile fun c => decide (c.toNat ≤ 0x20))
      = (path.reverse.dropWhile fun c => decide (c.toNat ≤ 0x20))
        ++ '/' :: (first :: front).reverse := by
    rw [List.reverse_append, List.reverse_cons, List.append_assoc, List.dropWhile_append]
    split
    · rename_i hempty
      rw [List.isEmpty_iff.1 hempty]
      rfl
    · rfl
  have hfront : (first :: front).filter (fun c => c ≠ '\t' && c ≠ '\n' && c ≠ '\r')
      = first :: front := by
    rw [List.filter_eq_self]
    intro c hc
    simp [kept c hc]
  have hstart : ((first :: front ++ '/' :: path).dropWhile fun c => decide (c.toNat ≤ 0x20))
      = first :: front ++ '/' :: path := by
    rw [List.cons_append, List.dropWhile_cons_of_neg (by simpa using hfirst)]
  unfold cleaned
  dsimp only
  rw [hstart, hend, List.reverse_append, List.reverse_cons, List.reverse_reverse,
    List.append_assoc, List.filter_append, hfront]
  rfl

theorem lt_of_endsPath {c : Char} (h : endsPath c = true) : 0x20 < c.toNat := by
  unfold endsPath at h
  rw [Bool.or_eq_true, decide_eq_true_eq, decide_eq_true_eq] at h
  rcases h with rfl | rfl <;> decide

/-- Whether a path ends early is a matter of the characters that can end it. -/
theorem not_endsPath_of_subset {s t : List Char} (subset : ∀ c, endsPath c = true → c ∈ t → c ∈ s)
    (h : ∀ c ∈ s, endsPath c = false) : ∀ c ∈ t, endsPath c = false := by
  intro c hc
  cases hends : endsPath c with
  | false => rfl
  | true =>
      rw [h c (subset c hends hc)] at hends
      cases hends

theorem parseQuery_eq_none (isSpecial : Bool) (s : List Char) :
    ((parseQuery isSpecial (s.dropWhile (!endsPath ·))).1 = none
        ∧ (parseQuery isSpecial (s.dropWhile (!endsPath ·))).2 = none)
      ↔ ∀ c ∈ s, endsPath c = false := by
  cases hrest : s.dropWhile (!endsPath ·) with
  | nil =>
      have hall := List.dropWhile_eq_nil_iff.1 hrest
      exact ⟨fun _ c hc => by simpa using hall c hc, fun _ => ⟨rfl, rfl⟩⟩
  | cons c rest =>
      have hmem : c ∈ s := (List.dropWhile_sublist _).subset (hrest ▸ List.mem_cons_self)
      have hends : endsPath c = true := by
        have hhead := List.head_dropWhile_not (fun c => !endsPath c) (l := s) (by simp [hrest])
        simpa [hrest] using hhead
      constructor
      · intro hnone
        unfold endsPath at hends
        rw [Bool.or_eq_true, decide_eq_true_eq, decide_eq_true_eq] at hends
        rcases hends with rfl | rfl
        · simp [parseQuery] at hnone
        · simp [parseQuery] at hnone
      · intro hnone
        rw [hnone c hmem] at hends
        cases hends

/-! ## URLs -/

variable {scheme : String}

theorem splitScheme_eq (socket : scheme = "ws" ∨ scheme = "wss") (rest : List Char) :
    splitScheme (scheme.toList ++ ':' :: rest) = some (scheme, rest) := by
  rcases socket with rfl | rfl <;> rfl

theorem ofScheme_eq (socket : scheme = "ws" ∨ scheme = "wss") :
    SchemeKind.ofScheme scheme = .server := by
  rcases socket with rfl | rfl <;> decide

/-- The URL with an authority that holds nothing at which it could end. -/
theorem parse_eq (socket : scheme = "ws" ∨ scheme = "wss") {authority path : List Char}
    (nonempty : authority ≠ []) (separators : ∀ c ∈ authority, isSeparator c = false) :
    parse (scheme ++ "://" ++ String.ofList (authority ++ '/' :: path))
      = (hostAndPort authority).map fun (host, port, rest) =>
          withPath true
            { ofScheme scheme with
              host := some host
              port := if port = defaultPort? scheme then none else port }
            (pathBehindAuthority true) (rest ++ '/' :: keptPath path) := by
  have hkept : ∀ c ∈ authority, c ≠ '\t' ∧ c ≠ '\n' ∧ c ≠ '\r' := by
    intro c hc
    refine ⟨?_, ?_, ?_⟩ <;> rintro rfl <;> exact absurd (separators _ hc) (by decide)
  have htext : (scheme ++ "://" ++ String.ofList (authority ++ '/' :: path)).toList
      = scheme.toList ++ ':' :: '/' :: '/' :: authority ++ '/' :: path := by
    rw [String.toList_append, String.toList_append, String.toList_ofList]
    simp
  have hcleaned : cleaned (scheme ++ "://" ++ String.ofList (authority ++ '/' :: path)).toList
      = scheme.toList ++ ':' :: '/' :: '/' :: (authority ++ '/' :: keptPath path) := by
    rw [htext]
    rcases socket with rfl | rfl
    · have hclean := @cleaned_eq 'w' ('s' :: ':' :: '/' :: '/' :: authority) path (by decide)
        (by simpa using hkept)
      simpa using hclean
    · have hclean := @cleaned_eq 'w' ('s' :: 's' :: ':' :: '/' :: '/' :: authority) path
        (by decide) (by simpa using hkept)
      simpa using hclean
  have hslashes : ('/' :: '/' :: (authority ++ '/' :: keptPath path)).dropWhile isSlash
      = authority ++ '/' :: keptPath path := by
    obtain ⟨first, others, rfl⟩ := List.exists_cons_of_ne_nil nonempty
    have hfirst : ¬isSlash first = true := by
      intro hslash
      unfold isSlash at hslash
      rw [Bool.or_eq_true, decide_eq_true_eq, decide_eq_true_eq] at hslash
      rcases hslash with rfl | rfl <;>
        exact absurd (separators _ List.mem_cons_self) (by decide)
    rw [List.dropWhile_cons_of_pos rfl, List.dropWhile_cons_of_pos rfl, List.cons_append,
      List.dropWhile_cons_of_neg hfirst]
  unfold parse
  rw [hcleaned, splitScheme_eq socket]
  dsimp only
  rw [ofScheme_eq socket]
  dsimp only
  rw [hslashes, parseAuthority_eq scheme separators]

/-- A host, a port and a path are read as what they are, and the path alone decides whether there is
a query or a fragment. -/
theorem parse_of_host (socket : scheme = "ws" ∨ scheme = "wss") {s : List Char} {host : Host}
    (ok : Host.parse s = .ok host) (port : UInt16) (path : List Char) :
    ∃ url, parse (scheme ++ "://" ++ String.ofList (s ++ ':' :: portText port ++ '/' :: path))
        = .ok url
      ∧ url.scheme = scheme ∧ url.host = some host
      ∧ url.port = (if some port.toNat = defaultPort? scheme then none else some port.toNat)
      ∧ url.user = "" ∧ url.password = none
      ∧ ((url.query = none ∧ url.fragment = none) ↔ ∀ c ∈ path, endsPath c = false) := by
  have hseparators := not_isSeparator_of_port (Host.shape_of_parse ok).not_isSeparator port
  have hparse := @parse_eq scheme socket _ path (by simp) hseparators
  rw [hostAndPort_of_host ok] at hparse
  refine ⟨_, hparse, rfl, rfl, rfl, rfl, rfl, ?_⟩
  show ((parseQuery true (('/' :: keptPath path).dropWhile (!endsPath ·))).1 = none
    ∧ (parseQuery true (('/' :: keptPath path).dropWhile (!endsPath ·))).2 = none) ↔ _
  rw [parseQuery_eq_none, List.forall_mem_cons]
  constructor
  · rintro ⟨-, hkept⟩
    exact not_endsPath_of_subset (fun c hends => mem_keptPath (lt_of_endsPath hends)) hkept
  · exact fun hpath => ⟨rfl, fun c hc => hpath c (mem_of_mem_keptPath hc)⟩

/-- What is no host makes no URL, if nothing in it can end the host or be dropped from it. -/
theorem exists_error_parse (socket : scheme = "ws" ∨ scheme = "wss") {s : List Char}
    {err : UrlError} (failed : Host.parse s = .error err)
    (separators : ∀ c ∈ s, isSeparator c = false) (port : UInt16) (path : List Char) :
    ∃ err, parse (scheme ++ "://" ++ String.ofList (s ++ ':' :: portText port ++ '/' :: path))
      = .error err := by
  obtain ⟨err, herr⟩ := exists_error_hostAndPort failed separators port
  have hparse := @parse_eq scheme socket _ path (by simp)
    (not_isSeparator_of_port separators port)
  rw [herr] at hparse
  exact ⟨err, hparse⟩

end Url

end SurfaceBridge
