import SurfaceBridge.Proofs.Text.Trimming
import SurfaceBridge.Terminal.Command

set_option autoImplicit false

/-! # Lines that are commands

A line that is not blank says a verb, and a value if there is more than blanks behind the verb
(`Says`). There is one way to read the two off the trimmed line (`says_iff`), and a command is what
they mean (`Means`), so blanks only matter where they end the verb or stand inside of the value.
-/

namespace SurfaceBridge

open Text (isBlank trim Blanks IsTrimmed)

/-- The verb that selects an option. -/
def OptionKind.verb : OptionKind → String
  | .culture => "culture"
  | .language => "language"

namespace Command

/-! ## Verbs and values -/

/-- A line says a verb without blanks and a trimmed value, with blanks in front of the verb, behind
the value, and between the two if there is a value. -/
structure Says (verb value line : List Char) : Prop where
  nonempty : verb ≠ []
  word : ∀ c ∈ verb, isBlank c = false
  trimmed : IsTrimmed value
  text : ∃ before gap behind, Blanks before ∧ Blanks gap ∧ Blanks behind
    ∧ (value ≠ [] → gap ≠ []) ∧ line = before ++ verb ++ gap ++ value ++ behind

variable {verb value line : List Char}

/-- A word ends where the first blank is. -/
theorem takeWhile_word (word : ∀ c ∈ verb, isBlank c = false) {rest : List Char}
    (ended : ∀ c, rest.head? = some c → isBlank c = true) :
    (verb ++ rest).takeWhile (fun c => !isBlank c) = verb
      ∧ (verb ++ rest).dropWhile (fun c => !isBlank c) = rest := by
  have hword : ∀ c ∈ verb, (!isBlank c) = true := fun c hc => by simp [word c hc]
  rw [List.takeWhile_append_of_pos hword, List.dropWhile_append_of_pos hword]
  cases rest with
  | nil => exact ⟨List.append_nil _, rfl⟩
  | cons c rest =>
      have hc : (!isBlank c) = false := by simp [ended c rfl]
      simp [hc]

/-- Every text is a word and what stands behind its end. -/
theorem exists_word (s : List Char) :
    ∃ word rest, s = word ++ rest ∧ (∀ c ∈ word, isBlank c = false)
      ∧ ∀ c, rest.head? = some c → isBlank c = true := by
  refine ⟨s.takeWhile fun c => !isBlank c, s.dropWhile fun c => !isBlank c,
    List.takeWhile_append_dropWhile.symm, fun c hc => ?_, fun c hc => ?_⟩
  · simpa using List.mem_takeWhile_imp hc
  · have hhead := List.head?_dropWhile_not (fun c => !isBlank c) s
    rw [hc] at hhead
    simpa using hhead

/-- What is left of a line that says something when it is trimmed. -/
theorem Says.trim_eq (h : Says verb value line) :
    ∃ rest, trim line = verb ++ rest ∧ (∀ c, rest.head? = some c → isBlank c = true)
      ∧ trim rest = value := by
  obtain ⟨before, gap, behind, hbefore, hgap, hbehind, hapart, rfl⟩ := h.text
  by_cases hvalue : value = []
  · refine ⟨[], ?_, fun c hc => (by cases hc), hvalue.symm⟩
    rw [hvalue, List.append_nil, List.append_nil, List.append_assoc]
    exact Text.trim_append hbefore (Text.isTrimmed_of_word h.word) (hgap.append hbehind)
  · obtain ⟨first, verb', rfl⟩ := List.exists_cons_of_ne_nil h.nonempty
    obtain ⟨blank, gap', rfl⟩ := List.exists_cons_of_ne_nil (hapart hvalue)
    have hwhole : IsTrimmed (first :: verb' ++ (blank :: gap' ++ value)) := by
      refine ⟨fun c hc => ?_, fun c hc => h.trimmed.last c ?_⟩
      · exact h.word c (List.mem_of_head? hc)
      · have hlast := List.getLast?_eq_some_getLast hvalue
        rw [← List.append_assoc, List.getLast?_append, hlast] at hc
        exact hlast.trans hc
    refine ⟨blank :: gap' ++ value, ?_, fun c hc => hgap c (List.mem_of_head? hc), ?_⟩
    · have htrim := Text.trim_append hbefore hwhole hbehind
      simpa only [List.append_assoc] using htrim
    · have hnil : Blanks [] := fun _ hc => absurd hc List.not_mem_nil
      have htrim := Text.trim_append hgap h.trimmed hnil
      rwa [List.append_nil] at htrim

/-- A line that is not blank says the first word of it and the rest, trimmed again. -/
theorem says_trim (nonblank : ¬ Blanks line) :
    Says ((trim line).takeWhile fun c => !isBlank c)
      (trim ((trim line).dropWhile fun c => !isBlank c)) line := by
  obtain ⟨before, behind, hbefore, hbehind, htext⟩ := Text.exists_trim line
  have htrimmed := Text.isTrimmed_trim line
  have hnonempty : trim line ≠ [] := fun hnil => nonblank (Text.trim_eq_nil_iff.1 hnil)
  generalize trim line = whole at htext htrimmed hnonempty ⊢
  obtain ⟨word, rest, rfl, hword, hended⟩ := exists_word whole
  obtain ⟨htake, hdrop⟩ := takeWhile_word hword hended
  obtain ⟨gap, back, hgap, hback, hrest⟩ := Text.exists_trim rest
  rw [htake, hdrop]
  refine ⟨?nonempty, hword, Text.isTrimmed_trim rest, before, gap, back ++ behind, hbefore, hgap,
    hback.append hbehind, ?apart, ?text⟩
  case nonempty =>
      rintro rfl
      exact hnonempty (htrimmed.eq_nil hended)
  case apart =>
      rintro hvalue rfl
      -- the rest starts with a blank, and without a gap its first character is of the value
      refine hvalue ((Text.isTrimmed_trim rest).eq_nil fun c hc => hended c ?_)
      rw [hrest, List.nil_append, List.head?_append, hc]
      rfl
  case text =>
      calc line
          = before ++ (word ++ rest) ++ behind := htext
        _ = before ++ (word ++ (gap ++ trim rest ++ back)) ++ behind := by rw [← hrest]
        _ = before ++ word ++ gap ++ trim rest ++ (back ++ behind) := by
          simp only [List.append_assoc]

/-- The verb is the part of the trimmed line in front of the first blank, and the value is the rest,
trimmed again. -/
theorem says_iff :
    Says verb value line ↔ ¬ Blanks line
      ∧ verb = (trim line).takeWhile (fun c => !isBlank c)
      ∧ value = trim ((trim line).dropWhile fun c => !isBlank c) := by
  constructor
  · intro h
    obtain ⟨rest, hline, hended, hvalue⟩ := h.trim_eq
    obtain ⟨hverb, hrest⟩ := takeWhile_word h.word hended
    rw [hline, hverb, hrest]
    refine ⟨fun hblanks => ?_, rfl, hvalue.symm⟩
    rw [Text.trim_eq_nil_iff.2 hblanks] at hline
    exact h.nonempty (List.append_eq_nil_iff.1 hline.symm).1
  · rintro ⟨nonblank, rfl, rfl⟩
    exact says_trim nonblank

/-! ## What is meant -/

/-- A verb that no command has. -/
def IsUnknown (verb : String) : Prop :=
  (∀ kind : OptionKind, verb ≠ kind.verb) ∧ verb ≠ "show" ∧ verb ≠ "quit" ∧ verb ≠ "exit"

/-- What a verb and a value mean. -/
inductive Means (verb value : String) : Except CommandError Command → Prop where
  | select (kind : OptionKind) (named : verb = kind.verb) (given : value ≠ "") :
    Means verb value (.ok (.select kind value))
  | showOutput (named : verb = "show") : Means verb value (.ok .showOutput)
  | quit (named : verb = "quit" ∨ verb = "exit") : Means verb value (.ok .quit)
  | missingValue (kind : OptionKind) (named : verb = kind.verb) (missing : value = "") :
    Means verb value (.error (.missingValue verb))
  | unknownVerb (unknown : IsUnknown verb) : Means verb value (.error (.unknownVerb verb))

theorem selecting_eq (kind : OptionKind) (verb value : String) :
    selecting kind verb value
      = if value = "" then .error (.missingValue verb) else .ok (.select kind value) := by
  unfold selecting
  by_cases hvalue : value = ""
  · rw [if_pos hvalue, if_pos (String.isEmpty_iff.2 hvalue)]
  · rw [if_neg hvalue, if_neg fun h => hvalue (String.isEmpty_iff.1 h)]

theorem ofVerb_verb (kind : OptionKind) (value : String) :
    ofVerb kind.verb value
      = if value = "" then .error (.missingValue kind.verb) else .ok (.select kind value) := by
  cases kind <;> exact selecting_eq _ _ _

theorem ofVerb_of_unknown {verb : String} (unknown : IsUnknown verb) (value : String) :
    ofVerb verb value = .error (.unknownVerb verb) := by
  obtain ⟨hkind, hshow, hquit, hexit⟩ := unknown
  unfold ofVerb
  split
  · exact absurd rfl (hkind .culture)
  · exact absurd rfl (hkind .language)
  · exact absurd rfl hshow
  · exact absurd rfl hquit
  · exact absurd rfl hexit
  · rfl

theorem means_ofVerb (verb value : String) : Means verb value (ofVerb verb value) := by
  by_cases hkind : ∃ kind : OptionKind, verb = kind.verb
  · obtain ⟨kind, rfl⟩ := hkind
    rw [ofVerb_verb]
    split
    · exact .missingValue kind rfl ‹_›
    · exact .select kind rfl ‹_›
  · by_cases hshow : verb = "show"
    · subst hshow
      exact .showOutput rfl
    · by_cases hquit : verb = "quit" ∨ verb = "exit"
      · have hresult : ofVerb verb value = .ok .quit := by
          rcases hquit with rfl | rfl <;> rfl
        rw [hresult]
        exact .quit hquit
      · have hunknown : IsUnknown verb :=
          ⟨fun kind h => hkind ⟨kind, h⟩, hshow, fun h => hquit (Or.inl h),
            fun h => hquit (Or.inr h)⟩
        rw [ofVerb_of_unknown hunknown]
        exact .unknownVerb hunknown

/-- A verb and a value mean one thing. -/
theorem ofVerb_eq_iff {verb value : String} {result : Except CommandError Command} :
    ofVerb verb value = result ↔ Means verb value result := by
  constructor
  · rintro rfl
    exact means_ofVerb verb value
  · intro h
    cases h with
    | select kind named given =>
        subst named
        rw [ofVerb_verb, if_neg given]
    | showOutput named =>
        subst named
        rfl
    | quit named => rcases named with rfl | rfl <;> rfl
    | missingValue kind named missing =>
        subst named
        rw [ofVerb_verb, if_pos missing]
    | unknownVerb unknown => exact ofVerb_of_unknown unknown value

/-! ## Lines -/

/-- A command depends on what the line says. -/
theorem parse_eq_ofVerb {line verb value : String}
    (h : Says verb.toList value.toList line.toList) :
    parse line = (ofVerb verb value).map some := by
  obtain ⟨hline, hverb, hvalue⟩ := says_iff.1 h
  have hnonempty : trim line.toList ≠ [] := fun hnil => hline (Text.trim_eq_nil_iff.1 hnil)
  unfold parse
  obtain ⟨c, cs, hcons⟩ := List.exists_cons_of_ne_nil hnonempty
  rw [hcons] at hverb hvalue ⊢
  have hdrop : (c :: cs).drop verb.toList.length = (c :: cs).dropWhile fun d => !isBlank d := by
    have hsplit : (c :: cs) = verb.toList ++ (c :: cs).dropWhile fun d => !isBlank d := by
      rw [hverb, List.takeWhile_append_dropWhile]
    rw [hsplit, List.drop_left, ← hsplit]
  dsimp only
  rw [← hverb, hdrop, ← hvalue, String.ofList_toList, String.ofList_toList]

theorem map_some_ne_none (result : Except CommandError Command) : result.map some ≠ .ok none := by
  cases result <;> exact nofun

theorem parse_eq_none_iff (line : String) : parse line = .ok none ↔ Blanks line.toList := by
  rw [← Text.trim_eq_nil_iff]
  unfold parse
  cases trim line.toList with
  | nil => exact ⟨fun _ => rfl, fun _ => rfl⟩
  | cons c cs =>
      exact ⟨fun h => absurd h (map_some_ne_none _), fun h => (by cases h)⟩

/-- Two lines with the same trimmed text are the same command. -/
theorem parse_congr {line line' : String} (same : trim line'.toList = trim line.toList) :
    parse line' = parse line := by
  unfold parse
  rw [same]

/-- What a line means is what its verb and its value mean. -/
theorem parse_eq_iff {line verb value : String}
    (h : Says verb.toList value.toList line.toList) {result : Except CommandError Command} :
    parse line = result.map some ↔ Means verb value result := by
  rw [parse_eq_ofVerb h, ← ofVerb_eq_iff]
  cases ofVerb verb value <;> cases result <;> simp [Except.map]

/-! ## Selecting -/

theorem verb_ne_nil (kind : OptionKind) : kind.verb.toList ≠ [] := by
  cases kind <;> decide

theorem isBlank_verb (kind : OptionKind) : ∀ c ∈ kind.verb.toList, isBlank c = false := by
  have hword : (kind.verb.toList.all fun c => !isBlank c) = true := by cases kind <;> decide
  intro c hc
  simpa using List.all_eq_true.1 hword c hc

/-- Every line that is not blank says something. -/
theorem exists_verb {line : String} (nonblank : ¬ Blanks line.toList) :
    ∃ verb value : String, Says verb.toList value.toList line.toList := by
  refine ⟨String.ofList ((trim line.toList).takeWhile fun c => !isBlank c),
    String.ofList (trim ((trim line.toList).dropWhile fun c => !isBlank c)), ?_⟩
  rw [String.toList_ofList, String.toList_ofList]
  exact says_trim nonblank

/-- The lines that select a value for an option. -/
theorem parse_eq_select_iff (line : String) (kind : OptionKind) (value : String) :
    parse line = .ok (some (.select kind value))
      ↔ value ≠ "" ∧ IsTrimmed value.toList
        ∧ ∃ before gap behind, Blanks before ∧ Blanks gap ∧ gap ≠ [] ∧ Blanks behind
          ∧ line.toList = before ++ kind.verb.toList ++ gap ++ value.toList ++ behind := by
  constructor
  · intro h
    have hline : ¬ Blanks line.toList := fun hblanks => by
      rw [(parse_eq_none_iff line).2 hblanks] at h
      cases h
    obtain ⟨verb, value', hsaid⟩ := exists_verb hline
    have hmeans : Means verb value' (.ok (.select kind value)) := (parse_eq_iff hsaid).1 h
    cases hmeans with
    | select _ named given =>
        subst named
        have hgiven : value.toList ≠ [] := fun hnil => given (String.toList_eq_nil_iff.1 hnil)
        obtain ⟨before, gap, behind, hbefore, hgap, hbehind, hapart, htext⟩ := hsaid.text
        exact ⟨given, hsaid.trimmed, before, gap, behind, hbefore, hgap, hapart hgiven, hbehind,
          htext⟩
  · rintro ⟨given, trimmed, before, gap, behind, hbefore, hgap, hapart, hbehind, htext⟩
    have hsaid : Says kind.verb.toList value.toList line.toList :=
      ⟨verb_ne_nil kind, isBlank_verb kind, trimmed, before, gap, behind, hbefore, hgap, hbehind,
        fun _ => hapart, htext⟩
    exact (parse_eq_iff hsaid).2 (.select kind rfl given)

/-- Lines are read by their grammar: a line of blanks is no command, any other line says one verb
and one value and is what the two mean, the lines that select a trimmed value are those with the
value behind the verb and a blank, and blanks around a line change nothing. -/
theorem grammar_of_parse :
    (∀ line, parse line = .ok none ↔ Blanks line.toList)
      ∧ (∀ verb value line, Says verb value line ↔ ¬ Blanks line
        ∧ verb = (trim line).takeWhile (fun c => !isBlank c)
        ∧ value = trim ((trim line).dropWhile fun c => !isBlank c))
      ∧ (∀ line verb value result, Says verb.toList value.toList line.toList →
        (parse line = result.map some ↔ Means verb value result))
      ∧ (∀ line kind value, parse line = .ok (some (.select kind value))
        ↔ value ≠ "" ∧ IsTrimmed value.toList
          ∧ ∃ before gap behind, Blanks before ∧ Blanks gap ∧ gap ≠ [] ∧ Blanks behind
            ∧ line.toList = before ++ kind.verb.toList ++ gap ++ value.toList ++ behind)
      ∧ ∀ before line behind : String, Blanks before.toList → Blanks behind.toList →
        parse (before ++ line ++ behind) = parse line := by
  refine ⟨parse_eq_none_iff, fun _ _ _ => says_iff, fun _ _ _ _ said => parse_eq_iff said,
    parse_eq_select_iff, fun before line behind hbefore hbehind => parse_congr ?_⟩
  rw [String.toList_append, String.toList_append, Text.trim_blanks hbefore line.toList hbehind]

/-- A value with blanks inside, on a line with blanks of other kinds around its words. -/
theorem grammar_of_parse_spaced :
    parse "\u3000culture \u00a0de  DE\u2003" = .ok (some (.select .culture "de  DE")) := by
  obtain ⟨-, hsaid, hmeans, -, hpad⟩ := grammar_of_parse
  have hverb : Says "culture".toList "de  DE".toList "culture \u00a0de  DE".toList :=
    (hsaid _ _ _).2 (by decide +kernel)
  have hline : parse "culture \u00a0de  DE" = .ok (some (.select .culture "de  DE")) :=
    (hmeans _ _ _ (.ok (.select .culture "de  DE")) hverb).2 (.select .culture rfl (by decide))
  have hpadded := hpad "\u3000" "culture \u00a0de  DE" "\u2003" (by decide) (by decide)
  exact hpadded.trans hline

end Command

end SurfaceBridge
