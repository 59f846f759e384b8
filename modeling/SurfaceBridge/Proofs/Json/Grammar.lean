import SurfaceBridge.Proofs.Json.Sides

set_option autoImplicit false

/-! # The grammar of JSON texts

A JSON text can be written in many ways: with blanks between its tokens, with escapes for any of its
characters, and with the members of an object in any order, repeated or not. The predicates of this
module are the grammar. They keep of a text what a reader of members can make of it: the pieces of
which the names are written, and those of the values that are texts (`Member`).

The grammar does not ask whether code units pair up to characters, so there are texts for which
`charsOf` gives nothing, and reading them fails. With this in mind, `gives_readText` says what
reading a text comes to, and `gives_readMembers` what reading the members of an object comes to,
with any reader for a single one.
-/

namespace SurfaceBridge

namespace Json

/-! ## Texts -/

/-- One piece of a text: a character, or a code unit of a character. -/
inductive Piece where
  | char (c : Char)
  | unit (n : Nat)

/-- The escapes of one letter, with the characters that they stand for. -/
def shortEscapes : List (Char × Char) :=
  [('"', '"'), ('\\', '\\'), ('/', '/'), ('b', '\x08'), ('f', '\x0c'), ('n', '\n'), ('r', '\r'),
    ('t', '\t')]

/-- How a piece can be written. -/
inductive PieceText : Piece → List Char → Prop where
  | plain {c : Char} (noQuote : c ≠ '"') (noBackslash : c ≠ '\\') (noControl : 0x20 ≤ c.toNat) :
      PieceText (.char c) [c]
  | short {letter c : Char} (listed : (letter, c) ∈ shortEscapes) :
      PieceText (.char c) ['\\', letter]
  | unit {a b c d : Char} {i j k l : Nat} (first : hexValue? a = some i)
      (second : hexValue? b = some j) (third : hexValue? c = some k)
      (fourth : hexValue? d = some l) :
      PieceText (.unit (((i * 16 + j) * 16 + k) * 16 + l)) ['\\', 'u', a, b, c, d]

/-- How the pieces of a text can be written between its quotes. -/
inductive BodyText : List Piece → List Char → Prop where
  | nil : BodyText [] []
  | cons {p : Piece} {ps : List Piece} {s rest : List Char} (piece : PieceText p s)
      (others : BodyText ps rest) : BodyText (p :: ps) (s ++ rest)

/-- The first half of a pair of code units. -/
def IsHigh (n : Nat) : Prop := 0xD800 ≤ n ∧ n ≤ 0xDBFF

/-- The second half of a pair of code units. -/
def IsLow (n : Nat) : Prop := 0xDC00 ≤ n ∧ n ≤ 0xDFFF

instance (n : Nat) : Decidable (IsHigh n) := inferInstanceAs (Decidable (_ ∧ _))

instance (n : Nat) : Decidable (IsLow n) := inferInstanceAs (Decidable (_ ∧ _))

/-- The character of a pair of code units. -/
def paired (high low : Nat) : Char :=
  Char.ofNat ((high - 0xD800) * 1024 + (low - 0xDC00) + 0x10000)

/-- The characters that pieces stand for; none if a half of a pair is left alone. -/
def charsOf : List Piece → Option (List Char)
  | [] => some []
  | .char c :: ps => (charsOf ps).map (c :: ·)
  | .unit n :: ps =>
    if IsLow n then none
    else if IsHigh n then
      match ps with
      | .unit m :: ps => if IsLow m then (charsOf ps).map (paired n m :: ·) else none
      | _ => none
    else (charsOf ps).map (Char.ofNat n :: ·)

/-- The text that pieces stand for. -/
def textOf (ps : List Piece) : Option String := (charsOf ps).map String.ofList

theorem charsOf_unit {n : Nat} (notLow : ¬ IsLow n) (notHigh : ¬ IsHigh n) (ps : List Piece) :
    charsOf (.unit n :: ps) = (charsOf ps).map (Char.ofNat n :: ·) := by
  rw [charsOf.eq_def]
  dsimp only
  rw [if_neg notLow, if_neg notHigh]

theorem charsOf_pair {n m : Nat} (notLow : ¬ IsLow n) (high : IsHigh n) (low : IsLow m)
    (ps : List Piece) :
    charsOf (.unit n :: .unit m :: ps) = (charsOf ps).map (paired n m :: ·) := by
  rw [charsOf.eq_def]
  dsimp only
  rw [if_neg notLow, if_pos high, if_pos low]

theorem BodyText.append {ps qs : List Piece} {s t : List Char} (h : BodyText ps s)
    (k : BodyText qs t) : BodyText (ps ++ qs) (s ++ t) := by
  induction h with
  | nil => exact k
  | cons piece others ih =>
      rw [List.append_assoc]
      exact .cons piece ih

/-! ## Numbers, values and members -/

/-- Nothing but blanks. -/
def Blanks (s : List Char) : Prop := ∀ c ∈ s, isSpace c = true

theorem blanks_nil : Blanks [] := fun _ hc => absurd hc List.not_mem_nil

/-- At least one digit and nothing else. -/
def Digits (s : List Char) : Prop := s ≠ [] ∧ ∀ c ∈ s, c.isDigit = true

/-- A whole number without a sign: no zero stands in front of other digits. -/
def WholeText (s : List Char) : Prop := Digits s ∧ (s.head? = some '0' → s = ['0'])

/-- A fraction, or nothing. -/
def FractionText (s : List Char) : Prop := s = [] ∨ ∃ ds, Digits ds ∧ s = '.' :: ds

/-- An exponent, or nothing. -/
def ExponentText (s : List Char) : Prop :=
  s = [] ∨ ∃ letter sign ds, letter ∈ ['e', 'E'] ∧ sign ∈ [[], ['+'], ['-']] ∧ Digits ds
    ∧ s = letter :: (sign ++ ds)

/-- How a number can be written. -/
inductive NumberText : List Char → Prop where
  | mk {sign whole fraction exponent : List Char} (signed : sign ∈ [[], ['-']])
      (digits : WholeText whole) (places : FractionText fraction) (power : ExponentText exponent) :
      NumberText (sign ++ whole ++ fraction ++ exponent)

/-- A member of an object: the pieces of its name and, if its value is a text, the pieces of the
value. -/
structure Member where
  name : List Piece
  value : Option (List Piece)

/-- The name of a member. -/
def Member.name? (m : Member) : Option String := textOf m.name

/-- The text that the value of a member is, if it is one. -/
def Member.text? (m : Member) : Option String := m.value.bind textOf

mutual

/-- How a value can be written, with the pieces of the value if it is a text. -/
inductive ValueText : Option (List Piece) → List Char → Prop where
  | word {s : List Char}
      (listed : s ∈ [['n', 'u', 'l', 'l'], ['t', 'r', 'u', 'e'], ['f', 'a', 'l', 's', 'e']]) :
      ValueText none s
  | number {s : List Char} (number : NumberText s) : ValueText none s
  | text {ps : List Piece} {body : List Char} (written : BodyText ps body) :
      ValueText (some ps) ('"' :: (body ++ ['"']))
  | list {s : List Char} (items : ItemsText true s) : ValueText none ('[' :: (s ++ [']']))
  | object {ms : List Member} {s : List Char} (members : MembersText true ms s) :
      ValueText none ('{' :: (s ++ ['}']))

/-- How the items of a list can be written that are still to come. -/
inductive ItemsText : Bool → List Char → Prop where
  | done {first : Bool} {blanks : List Char} (blank : Blanks blanks) : ItemsText first blanks
  | item {first : Bool} {before behind s rest : List Char} {ps : Option (List Piece)}
      (blankBefore : Blanks before) (blankBehind : Blanks behind) (value : ValueText ps s)
      (others : ItemsText false rest) :
      ItemsText first (before ++ (lead first ++ (behind ++ (s ++ rest))))

/-- How a member of an object can be written. -/
inductive MemberText : Member → List Char → Prop where
  | mk {ps : List Piece} {body before behind s : List Char} {value : Option (List Piece)}
      (name : BodyText ps body) (blankBefore : Blanks before) (blankBehind : Blanks behind)
      (written : ValueText value s) :
      MemberText ⟨ps, value⟩ ('"' :: (body ++ '"' :: (before ++ ':' :: (behind ++ s))))

/-- How the members of an object can be written that are still to come. -/
inductive MembersText : Bool → List Member → List Char → Prop where
  | done {first : Bool} {blanks : List Char} (blank : Blanks blanks) :
      MembersText first [] blanks
  | member {first : Bool} {m : Member} {ms : List Member} {before behind s rest : List Char}
      (blankBefore : Blanks before) (blankBehind : Blanks behind) (written : MemberText m s)
      (others : MembersText false ms rest) :
      MembersText first (m :: ms) (before ++ (lead first ++ (behind ++ (s ++ rest))))

end

/-- A whole text that is an object with the given members, in the order in which they are
written. -/
inductive ObjectText (ms : List Member) : List Char → Prop where
  | mk {before s after : List Char} (blankBefore : Blanks before) (members : MembersText true ms s)
      (blankAfter : Blanks after) : ObjectText ms (before ++ '{' :: (s ++ '}' :: after))

/-! ## Reading texts -/

/-- A reading gives a value and leaves the rest, or it fails if there is no value. -/
def Gives {α : Type} (value : Option α) (rest : List Char) (reading : Reading α) : Prop :=
  match value with
  | some a => reading = .ok (a, rest)
  | none => ∃ e, reading = .error e

theorem gives_some {α : Type} {a : α} {rest : List Char} {reading : Reading α} :
    Gives (some a) rest reading ↔ reading = .ok (a, rest) := Iff.rfl

theorem gives_none {α : Type} {rest : List Char} {reading : Reading α} :
    Gives none rest reading ↔ ∃ e, reading = .error e := Iff.rfl

theorem readEscape_short {letter c : Char} (listed : (letter, c) ∈ shortEscapes)
    (rest : List Char) : readEscape (letter :: rest) = .ok (c, rest) := by
  simp only [shortEscapes, List.mem_cons, Prod.mk.injEq, List.not_mem_nil, or_false] at listed
  rcases listed with ⟨rfl, rfl⟩ | ⟨rfl, rfl⟩ | ⟨rfl, rfl⟩ | ⟨rfl, rfl⟩ | ⟨rfl, rfl⟩ | ⟨rfl, rfl⟩
    | ⟨rfl, rfl⟩ | ⟨rfl, rfl⟩ <;> rfl

theorem ne_of_shortEscape {letter c : Char} (listed : (letter, c) ∈ shortEscapes) :
    letter ≠ 'u' := by
  rintro rfl
  simp [shortEscapes] at listed

theorem readHex_digits {a b c d : Char} {i j k l : Nat} (first : hexValue? a = some i)
    (second : hexValue? b = some j) (third : hexValue? c = some k) (fourth : hexValue? d = some l)
    (rest : List Char) :
    readHex (a :: b :: c :: d :: rest) = .ok (((i * 16 + j) * 16 + k) * 16 + l, rest) := by
  simp only [readHex, first, second, third, fourth]

/-- The second half of a pair is read in its place. -/
theorem readLowSurrogate_unit (high : Nat) {m : Nat} {s : List Char}
    (h : PieceText (.unit m) s) (rest : List Char) :
    Gives (if IsLow m then some (paired high m) else none) rest
      (readLowSurrogate high (s ++ rest)) := by
  cases h with
  | unit first second third fourth =>
      have hhex := readHex_digits first second third fourth rest
      generalize ((_ * 16 + _) * 16 + _) * 16 + _ = m at hhex ⊢
      simp only [List.cons_append, List.nil_append, readLowSurrogate, hhex]
      by_cases hm : IsLow m
      · rw [if_pos hm, if_pos (show 0xDC00 ≤ m ∧ m ≤ 0xDFFF from hm)]
        rfl
      · rw [if_neg hm, if_neg (show ¬ (0xDC00 ≤ m ∧ m ≤ 0xDFFF) from hm)]
        exact ⟨_, rfl⟩

/-- Nothing else can stand there. -/
theorem exists_readLowSurrogate_error (high : Nat) {ps : List Piece} {body : List Char}
    (h : BodyText ps body) (alone : ∀ m qs, ps ≠ .unit m :: qs) (rest : List Char) :
    ∃ e, readLowSurrogate high (body ++ '"' :: rest) = .error e := by
  cases h with
  | nil => exact ⟨_, rfl⟩
  | @cons p qs s more piece others =>
      generalize hbehind : more ++ '"' :: rest = behind
      rw [List.append_assoc, hbehind]
      cases piece with
      | @plain c noQuote noBackslash noControl =>
          have hother : readLowSurrogate high (c :: behind) = stop .hexEscapeEnd behind := by
            simp [readLowSurrogate, noBackslash]
          exact ⟨_, hother⟩
      | @short letter c listed =>
          have hother : readLowSurrogate high ('\\' :: letter :: behind)
              = stop .hexEscapeEnd behind := by
            simp [readLowSurrogate, ne_of_shortEscape listed]
          exact ⟨_, hother⟩
      | unit => exact absurd rfl (alone _ _)

/-- What an escape of a code unit comes to depends on whether it is a half of a pair. -/
theorem readEscape_unit {n : Nat} {s : List Char} (h : PieceText (.unit n) s) :
    ∃ digits, s = '\\' :: digits ∧ ∀ rest, readEscape (digits ++ rest)
      = if IsLow n then stop .loneSurrogate rest
        else if IsHigh n then readLowSurrogate n rest else .ok (Char.ofNat n, rest) := by
  cases h with
  | unit first second third fourth =>
      refine ⟨_, rfl, fun rest => ?_⟩
      have hhex := readHex_digits first second third fourth rest
      generalize ((_ * 16 + _) * 16 + _) * 16 + _ = n at hhex ⊢
      simp only [List.cons_append, List.nil_append, readEscape, Char.reduceEq, or_self, if_true,
        if_false, hhex]
      rfl

theorem readChars_escape {s rest : List Char} {d : Char} (h : readEscape s = .ok (d, rest))
    (fuel : Nat) (acc : List Char) :
    readChars (fuel + 1) acc ('\\' :: s) = readChars fuel (d :: acc) rest := by
  simp [readChars, h]

theorem exists_readChars_error {s : List Char} (h : ∃ e, readEscape s = .error e) (fuel : Nat)
    (acc : List Char) : ∃ e, readChars (fuel + 1) acc ('\\' :: s) = .error e := by
  obtain ⟨e, he⟩ := h
  exact ⟨e, by simp [readChars, he]⟩

theorem readChars_char {c : Char} {s : List Char} (h : PieceText (.char c) s) (fuel : Nat)
    (acc rest : List Char) :
    readChars (fuel + 1) acc (s ++ rest) = readChars fuel (c :: acc) rest := by
  cases h with
  | plain noQuote noBackslash noControl =>
      simp [readChars, noQuote, noBackslash, Nat.not_lt.2 noControl]
  | short listed =>
      simp only [List.cons_append, List.nil_append]
      exact readChars_escape (readEscape_short listed rest) fuel acc

theorem map_reverse_cons (c : Char) (acc : List Char) (cs : Option (List Char)) :
    (cs.map (c :: ·)).map (acc.reverse ++ ·) = cs.map ((c :: acc).reverse ++ ·) := by
  cases cs <;> simp

/-- The characters of a text are read from the pieces in which it is written. -/
theorem gives_readChars {ps : List Piece} {body : List Char} (h : BodyText ps body) {fuel : Nat}
    (enough : ps.length < fuel) (acc rest : List Char) :
    Gives ((charsOf ps).map (acc.reverse ++ ·)) rest
      (readChars fuel acc (body ++ '"' :: rest)) := by
  -- a pair of code units is read at once, so the cases are those of the characters
  fun_induction charsOf ps generalizing body fuel acc with
  | case1 =>
      obtain ⟨fuel, rfl⟩ := Nat.exists_eq_succ_of_ne_zero (Nat.ne_zero_of_lt enough)
      cases h with
      | nil => simp [Gives, readChars]
  | case2 c ps ih =>
      obtain ⟨fuel, rfl⟩ := Nat.exists_eq_succ_of_ne_zero (Nat.ne_zero_of_lt enough)
      cases h with
      | cons piece others =>
          rw [List.append_assoc, readChars_char piece, map_reverse_cons]
          exact ih others (by simpa using enough) (c :: acc)
  | case3 n ps low =>
      obtain ⟨fuel, rfl⟩ := Nat.exists_eq_succ_of_ne_zero (Nat.ne_zero_of_lt enough)
      cases h with
      | cons piece others =>
          obtain ⟨digits, rfl, hescape⟩ := readEscape_unit piece
          rw [List.append_assoc, List.cons_append]
          refine exists_readChars_error ?_ fuel acc
          rw [hescape, if_pos low]
          exact ⟨_, rfl⟩
  | case4 n notLow high m ps low ih =>
      obtain ⟨fuel, rfl⟩ := Nat.exists_eq_succ_of_ne_zero (Nat.ne_zero_of_lt enough)
      cases h with
      | cons piece others =>
          obtain ⟨digits, rfl, hescape⟩ := readEscape_unit piece
          cases others with
          | @cons _ _ s more second others =>
              have hpair := readLowSurrogate_unit n second (more ++ '"' :: rest)
              rw [if_pos low] at hpair
              have hread : readEscape (digits ++ (s ++ (more ++ '"' :: rest)))
                  = .ok (paired n m, more ++ '"' :: rest) := by
                rw [hescape, if_neg notLow, if_pos high]
                exact hpair
              rw [List.append_assoc, List.append_assoc, List.cons_append, readChars_escape hread,
                map_reverse_cons]
              refine ih others ?_ (paired n m :: acc)
              simp only [List.length_cons] at enough
              omega
  | case5 n notLow high m ps notPair =>
      obtain ⟨fuel, rfl⟩ := Nat.exists_eq_succ_of_ne_zero (Nat.ne_zero_of_lt enough)
      cases h with
      | cons piece others =>
          obtain ⟨digits, rfl, hescape⟩ := readEscape_unit piece
          cases others with
          | @cons _ _ s more second others =>
              have hpair := readLowSurrogate_unit n second (more ++ '"' :: rest)
              rw [if_neg notPair] at hpair
              rw [List.append_assoc, List.append_assoc, List.cons_append]
              refine exists_readChars_error ?_ fuel acc
              rw [hescape, if_neg notLow, if_pos high]
              exact hpair
  | case6 n ps notLow high alone =>
      obtain ⟨fuel, rfl⟩ := Nat.exists_eq_succ_of_ne_zero (Nat.ne_zero_of_lt enough)
      cases h with
      | cons piece others =>
          obtain ⟨digits, rfl, hescape⟩ := readEscape_unit piece
          rw [List.append_assoc, List.cons_append]
          refine exists_readChars_error ?_ fuel acc
          rw [hescape, if_neg notLow, if_pos high]
          exact exists_readLowSurrogate_error n others alone rest
  | case7 n ps notLow notHigh ih =>
      obtain ⟨fuel, rfl⟩ := Nat.exists_eq_succ_of_ne_zero (Nat.ne_zero_of_lt enough)
      cases h with
      | @cons _ _ _ more piece others =>
          obtain ⟨digits, rfl, hescape⟩ := readEscape_unit piece
          have hread : readEscape (digits ++ (more ++ '"' :: rest))
              = .ok (Char.ofNat n, more ++ '"' :: rest) := by
            rw [hescape, if_neg notLow, if_neg notHigh]
          rw [List.append_assoc, List.cons_append, readChars_escape hread, map_reverse_cons]
          exact ih others (by simpa using enough) (Char.ofNat n :: acc)

theorem length_le_of_bodyText {ps : List Piece} {body : List Char} (h : BodyText ps body) :
    ps.length ≤ body.length := by
  induction h with
  | nil => exact Nat.le_refl _
  | @cons p ps s rest piece others ih =>
      have hpos : 1 ≤ s.length := by
        cases piece <;> simp
      rw [List.length_append, List.length_cons]
      omega

/-- A text is read from the pieces in which it is written. -/
theorem gives_readText {ps : List Piece} {body : List Char} (h : BodyText ps body)
    (rest : List Char) : Gives (textOf ps) rest (readText (body ++ '"' :: rest)) := by
  have henough : ps.length < (body ++ '"' :: rest).length + 1 := by
    have hle := length_le_of_bodyText h
    rw [List.length_append]
    omega
  have hread := gives_readChars h henough [] rest
  unfold textOf readText
  cases hcs : charsOf ps with
  | none =>
      rw [hcs, Option.map_none, gives_none] at hread
      obtain ⟨e, he⟩ := hread
      exact ⟨e, by rw [he]; rfl⟩
  | some cs =>
      rw [hcs, Option.map_some, gives_some] at hread
      rw [hread]
      rfl

/-! ## Reading members -/

theorem skipSpace_blanks {blanks : List Char} (h : Blanks blanks) {c : Char}
    (solid : isSpace c = false) (rest : List Char) :
    skipSpace (blanks ++ c :: rest) = c :: rest := by
  induction blanks with
  | nil => simp [skipSpace, solid]
  | cons b bs ih =>
      have hb : isSpace b = true := h b List.mem_cons_self
      have hbs := ih fun c hc => h c (List.mem_cons_of_mem b hc)
      simpa [skipSpace, hb] using hbs

theorem skipSpace_of_blanks {blanks : List Char} (h : Blanks blanks) : skipSpace blanks = [] :=
  List.dropWhile_eq_nil_iff.2 h

theorem readColon_blanks {blanks : List Char} (h : Blanks blanks) (rest : List Char) :
    readColon (blanks ++ ':' :: rest) = .ok rest := by
  simp [readColon, skipSpace_blanks h (c := ':') rfl]

/-- In front of a member there may be blanks, and behind the comma as well. -/
theorem nextMember_blanks {before behind : List Char} (blankBefore : Blanks before)
    (blankBehind : Blanks behind) (first : Bool) (rest : List Char) :
    nextMember first (before ++ (lead first ++ (behind ++ '"' :: rest))) = .ok (true, rest) := by
  have hbehind := skipSpace_blanks blankBehind (c := '"') rfl rest
  cases first with
  | true =>
      have hboth : Blanks (before ++ behind) := fun c hc =>
        (List.mem_append.1 hc).elim (blankBefore c) (blankBehind c)
      have hskip := skipSpace_blanks hboth (c := '"') rfl rest
      rw [List.append_assoc] at hskip
      simp [nextMember, lead, hskip]
  | false =>
      have hskip := skipSpace_blanks blankBefore (c := ',') rfl (behind ++ '"' :: rest)
      simp [nextMember, lead, hskip, hbehind]

theorem nextMember_blanks_end {blanks : List Char} (h : Blanks blanks) (first : Bool)
    (rest : List Char) : nextMember first (blanks ++ '}' :: rest) = .ok (false, '}' :: rest) := by
  simp [nextMember, skipSpace_blanks h (c := '}') rfl]

theorem exists_of_memberText {m : Member} {s : List Char} (h : MemberText m s) :
    ∃ t, s = '"' :: t := by
  cases h with
  | mk => exact ⟨_, rfl⟩

/-- Every member takes at least one character, so the length of the text is fuel enough. -/
theorem length_le_of_membersText {first : Bool} {ms : List Member} {s : List Char}
    (h : MembersText first ms s) : ms.length ≤ s.length := by
  induction ms generalizing first s with
  | nil => exact Nat.zero_le _
  | cons m ms ih =>
      cases h with
      | member blankBefore blankBehind written others =>
          have hms := ih others
          obtain ⟨t, rfl⟩ := exists_of_memberText written
          simp only [List.length_append, List.length_cons]
          omega

/-- The members of an object are read one after the other, and the first for which the reader of
members has nothing ends it. -/
theorem gives_readMembers {σ : Type} {member : σ → List Char → Reading σ}
    {take : σ → Member → Option σ}
    (each : ∀ state m t rest, MemberText m ('"' :: t) →
      Gives (take state m) rest (member state (t ++ rest)))
    {first : Bool} {ms : List Member} {s : List Char} (h : MembersText first ms s) {fuel : Nat}
    (enough : ms.length < fuel) (state : σ) (rest : List Char) :
    Gives (ms.foldlM take state) ('}' :: rest)
      (readMembers member fuel first state (s ++ '}' :: rest)) := by
  induction ms generalizing first s fuel state with
  | nil =>
      obtain ⟨fuel, rfl⟩ := Nat.exists_eq_succ_of_ne_zero (Nat.ne_zero_of_lt enough)
      cases h with
      | done blank =>
          rw [readMembers, nextMember_blanks_end blank]
          rfl
  | cons m ms ih =>
      obtain ⟨fuel, rfl⟩ := Nat.exists_eq_succ_of_ne_zero (Nat.ne_zero_of_lt enough)
      cases h with
      | @member _ _ _ before behind _ more blankBefore blankBehind written others =>
          obtain ⟨t, rfl⟩ := exists_of_memberText written
          have hmember := each state m t (more ++ '}' :: rest) written
          have hnext := nextMember_blanks blankBefore blankBehind first
            (t ++ (more ++ '}' :: rest))
          have hassoc : before ++ (lead first ++ (behind ++ ('"' :: t ++ more))) ++ '}' :: rest
              = before ++ (lead first ++ (behind ++ '"' :: (t ++ (more ++ '}' :: rest)))) := by
            simp
          rw [hassoc, readMembers, hnext, List.foldlM_cons]
          dsimp only
          cases ht : take state m with
          | none =>
              rw [ht, gives_none] at hmember
              obtain ⟨e, he⟩ := hmember
              exact ⟨e, by rw [he]⟩
          | some after =>
              rw [ht, gives_some] at hmember
              rw [hmember]
              exact ih others (by simpa using enough) after

theorem exists_of_numberText {s : List Char} (h : NumberText s) :
    ∃ c cs, s = c :: cs ∧ (c = '-' ∨ c.isDigit = true) := by
  cases h with
  | @mk sign whole fraction exponent signed digits places power =>
      obtain ⟨⟨hne, hdigits⟩, -⟩ := digits
      obtain ⟨d, ds, rfl⟩ := List.exists_cons_of_ne_nil hne
      have hd : d.isDigit = true := hdigits d List.mem_cons_self
      simp only [List.mem_cons, List.not_mem_nil, or_false] at signed
      rcases signed with rfl | rfl
      · exact ⟨d, _, rfl, Or.inr hd⟩
      · exact ⟨'-', _, rfl, Or.inl rfl⟩

/-- The first character of a value is no blank, and it shows whether the value is a text. -/
theorem exists_of_valueText {value : Option (List Piece)} {s : List Char}
    (h : ValueText value s) :
    ∃ c cs, s = c :: cs ∧ isSpace c = false ∧ (value = none → c ≠ '"') := by
  cases h with
  | word listed =>
      simp only [List.mem_cons, List.not_mem_nil, or_false] at listed
      rcases listed with rfl | rfl | rfl <;> exact ⟨_, _, rfl, rfl, fun _ => by decide⟩
  | number number =>
      obtain ⟨c, cs, rfl, hc⟩ := exists_of_numberText number
      have hopens : Opens c (.number (.integer 0)) := hc
      refine ⟨c, cs, rfl, hopens.not_end.1, fun _ => ?_⟩
      rintro rfl
      rcases hc with hc | hc <;> exact absurd hc (by decide)
  | text written => exact ⟨_, _, rfl, rfl, by simp⟩
  | list items => exact ⟨_, _, rfl, rfl, fun _ => by decide⟩
  | object members => exact ⟨_, _, rfl, rfl, fun _ => by decide⟩

/-- The decoder of texts accepts a value if it is a text. -/
theorem gives_text {value : Option (List Piece)} {s blanks : List Char} (h : ValueText value s)
    (blank : Blanks blanks) (depth : Nat) (rest : List Char) :
    Gives (value.bind textOf) rest (Decoder.text.fromText depth (blanks ++ (s ++ rest))) := by
  obtain ⟨c, cs, rfl, solid, other⟩ := exists_of_valueText h
  have hskip := skipSpace_blanks blank solid (cs ++ rest)
  have hread : Decoder.text.fromText depth (blanks ++ (c :: cs ++ rest))
      = if c = '"' then readText (cs ++ rest) else refuseKind "a string" (c :: (cs ++ rest)) := by
    simp only [Decoder.text, atValue, List.cons_append, hskip]
  rw [hread]
  cases value with
  | none =>
      rw [if_neg (other rfl)]
      exact exists_refuseKind _ _
  | some ps =>
      cases h with
      | text written =>
          rw [if_pos rfl, List.append_assoc]
          exact gives_readText written rest

/-! ## What is written -/

theorem pieceText_control {c : Char} (control : c.toNat < 0x20) :
    PieceText (.unit c.toNat)
      ['\\', 'u', '0', '0', hexDigit (c.toNat / 16), hexDigit c.toNat] := by
  have hzero : hexValue? '0' = some 0 := rfl
  have hunit := PieceText.unit hzero hzero (hexValue?_hexDigit (c.toNat / 16))
    (hexValue?_hexDigit c.toNat)
  have hvalue : ((0 * 16 + 0) * 16 + c.toNat / 16 % 16) * 16 + c.toNat % 16 = c.toNat := by omega
  rwa [hvalue] at hunit

theorem charsOf_control {c : Char} (control : c.toNat < 0x20) (ps : List Piece) :
    charsOf (.unit c.toNat :: ps) = (charsOf ps).map (c :: ·) := by
  have hlow : ¬ IsLow c.toNat := by
    unfold IsLow
    omega
  have hhigh : ¬ IsHigh c.toNat := by
    unfold IsHigh
    omega
  rw [charsOf_unit hlow hhigh, Char.ofNat_toNat]

/-- A character is written as one piece that stands for it whatever follows. -/
theorem exists_piece (c : Char) :
    ∃ p, PieceText p (escapeChar c) ∧ ∀ ps, charsOf (p :: ps) = (charsOf ps).map (c :: ·) := by
  have short : ∀ letter, (letter, c) ∈ shortEscapes →
      ∃ p, PieceText p ['\\', letter]
        ∧ ∀ ps, charsOf (p :: ps) = (charsOf ps).map (c :: ·) :=
    fun letter listed => ⟨.char c, .short listed, fun _ => rfl⟩
  unfold escapeChar
  split
  · rename_i h
    exact short '"' (by simp [h, shortEscapes])
  rename_i noQuote
  split
  · rename_i h
    exact short '\\' (by simp [h, shortEscapes])
  rename_i noBackslash
  split
  · rename_i h
    exact short 'b' (by simp [h, shortEscapes])
  split
  · rename_i h
    exact short 't' (by simp [h, shortEscapes])
  split
  · rename_i h
    exact short 'n' (by simp [h, shortEscapes])
  split
  · rename_i h
    exact short 'f' (by simp [h, shortEscapes])
  split
  · rename_i h
    exact short 'r' (by simp [h, shortEscapes])
  split
  · rename_i control
    exact ⟨.unit c.toNat, pieceText_control control, charsOf_control control⟩
  · rename_i control
    exact ⟨.char c, .plain noQuote noBackslash (Nat.not_lt.1 control), fun _ => rfl⟩

/-- What is written between the quotes of a text is of the grammar and stands for the text. -/
theorem exists_pieces (s : String) :
    ∃ ps, BodyText ps (s.toList.flatMap escapeChar) ∧ textOf ps = some s := by
  have key : ∀ cs : List Char,
      ∃ ps, BodyText ps (cs.flatMap escapeChar) ∧ charsOf ps = some cs := by
    intro cs
    induction cs with
    | nil => exact ⟨[], .nil, rfl⟩
    | cons c cs ih =>
        obtain ⟨p, hp, hchars⟩ := exists_piece c
        obtain ⟨ps, hps, hcs⟩ := ih
        exact ⟨p :: ps, .cons hp hps, by rw [hchars, hcs]; rfl⟩
  obtain ⟨ps, hps, hchars⟩ := key s.toList
  exact ⟨ps, hps, by rw [textOf, hchars, Option.map_some, String.ofList_toList]⟩

end Json

end SurfaceBridge
