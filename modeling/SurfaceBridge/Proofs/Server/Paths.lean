import Mathlib.Data.List.Basic
import SurfaceBridge.Server.Location

set_option autoImplicit false

/-! # Normal paths

A path has segments, the non-empty parts between its slashes, and it may end in a slash. A normal
path is written out of these two alone (`collapseSlashes_eq`), so slashes in front of a path or in
a row are not seen in it, and there is one normal path for each path (`isNormalForm_iff`). The path
of a service is the path of the page and that of the service with a slash in between, so it has the
segments of both and ends like that of the service.
-/

namespace SurfaceBridge

namespace Server

/-! ## Segments -/

/-- The parts of a path between its slashes, without those that are empty. -/
def segments (path : List Char) : List (List Char) := (path.splitOn '/').filter fun s => s ≠ []

/-- Whether there is nothing behind the last slash of a path, if a slash is put in front of it. -/
def EndsOpen (path : List Char) : Prop := path = [] ∨ path.getLast? = some '/'

instance (path : List Char) : Decidable (EndsOpen path) :=
  inferInstanceAs (Decidable (path = [] ∨ path.getLast? = some '/'))

/-- A path is a segment, or a segment, a slash and a path; the segments may be empty here. -/
theorem segment_induction {P : List Char → Prop} (last : ∀ s, '/' ∉ s → P s)
    (slash : ∀ s rest, '/' ∉ s → P rest → P (s ++ '/' :: rest)) (path : List Char) : P path := by
  by_cases h : '/' ∈ path
  · obtain ⟨s, rest, hpath, hs⟩ := List.eq_append_cons_of_mem h
    have hshort : rest.length < path.length := by
      rw [hpath, List.length_append, List.length_cons]
      omega
    rw [hpath]
    exact slash s rest hs (segment_induction last slash rest)
  · exact last path h
termination_by path.length

/-- Segments end at a slash, wherever it is. -/
theorem segments_append_slash (s rest : List Char) :
    segments (s ++ '/' :: rest) = segments s ++ segments rest := by
  unfold segments
  rw [List.splitOn_append_cons_self, List.filter_append]

theorem segments_cons_slash (rest : List Char) : segments ('/' :: rest) = segments rest :=
  segments_append_slash [] rest

theorem segments_of_not_mem {s : List Char} (none : '/' ∉ s) (nonempty : s ≠ []) :
    segments s = [s] := by
  unfold segments
  rw [List.splitOn_eq_singleton none]
  simp [nonempty]

theorem endsOpen_append_slash (s rest : List Char) :
    EndsOpen (s ++ '/' :: rest) ↔ EndsOpen rest := by
  unfold EndsOpen
  cases rest with
  | nil => simp
  | cons c rest => simp [List.getLast?_append, List.getLast?_cons]

theorem not_endsOpen_of_not_mem {s : List Char} (none : '/' ∉ s) (nonempty : s ≠ []) :
    ¬ EndsOpen s := by
  rintro (hnil | hlast)
  · exact nonempty hnil
  · exact none (List.mem_of_getLast? hlast)

/-! ## Collapsing -/

/-- A path with a slash in front and no two slashes in a row. -/
structure IsNormal (path : List Char) : Prop where
  rooted : path.head? = some '/'
  single : ¬ ['/', '/'] <:+: path

/-- A normal path with the segments of a path that ends in a slash as that path does, and that is a
slash if there are no segments. -/
structure IsNormalForm (path normal : List Char) : Prop where
  isNormal : IsNormal normal
  segments : segments normal = segments path
  ending : normal.getLast? = some '/' ↔ EndsOpen path

theorem head?_collapseSlashes (s : List Char) : (collapseSlashes s).head? = s.head? := by
  induction s with
  | nil => rfl
  | cons c s ih =>
      rw [collapseSlashes]
      split
      · rename_i h
        rw [ih, h.2, h.1]
        rfl
      · rfl

theorem getLast?_collapseSlashes (s : List Char) :
    (collapseSlashes s).getLast? = s.getLast? := by
  induction s with
  | nil => rfl
  | cons c s ih =>
      rw [collapseSlashes]
      split
      · rename_i h
        obtain ⟨rest, rfl⟩ := List.head?_eq_some_iff.1 h.2
        rw [ih, List.getLast?_cons_cons]
      · rw [List.getLast?_cons, List.getLast?_cons, ih]

theorem exists_collapseSlashes (s : List Char) :
    ∃ rest, collapseSlashes ('/' :: s) = '/' :: rest :=
  List.head?_eq_some_iff.1 (head?_collapseSlashes ('/' :: s))

/-- No slashes in a row are left. -/
theorem single_collapseSlashes (s : List Char) : ¬ ['/', '/'] <:+: collapseSlashes s := by
  induction s with
  | nil => simp [collapseSlashes]
  | cons c s ih =>
      rw [collapseSlashes]
      split
      · exact ih
      · rename_i h
        intro hinfix
        rcases List.infix_cons_iff.1 hinfix with hprefix | hinfix
        · obtain ⟨rfl, hrest⟩ := List.cons_prefix_cons.1 hprefix
          rw [List.singleton_prefix_iff_head?_eq_some, head?_collapseSlashes] at hrest
          exact h ⟨rfl, hrest⟩
        · exact ih hinfix

/-- A path without slashes in a row stays as it is. -/
theorem collapseSlashes_of_single {s : List Char} (single : ¬ ['/', '/'] <:+: s) :
    collapseSlashes s = s := by
  induction s with
  | nil => rfl
  | cons c s ih =>
      have hnot : ¬(c = '/' ∧ s.head? = some '/') := by
        rintro ⟨rfl, hhead⟩
        refine single (List.infix_cons_iff.2 (Or.inl ?_))
        rw [List.cons_prefix_cons, List.singleton_prefix_iff_head?_eq_some]
        exact ⟨rfl, hhead⟩
      rw [collapseSlashes, if_neg hnot, ih fun h => single (List.infix_cons_iff.2 (Or.inr h))]

theorem collapseSlashes_append {s : List Char} (none : '/' ∉ s) (rest : List Char) :
    collapseSlashes (s ++ rest) = s ++ collapseSlashes rest := by
  induction s with
  | nil => rfl
  | cons c s ih =>
      have hc : c ≠ '/' := fun h => none (h ▸ List.mem_cons_self)
      rw [List.cons_append, collapseSlashes, if_neg fun h => hc h.1,
        ih fun h => none (List.mem_cons_of_mem c h), List.cons_append]

/-- A slash in front of a segment stays. -/
theorem collapseSlashes_slash {s : List Char} (none : '/' ∉ s) (nonempty : s ≠ [])
    (rest : List Char) :
    collapseSlashes ('/' :: (s ++ rest)) = '/' :: s ++ collapseSlashes rest := by
  have hhead : (s ++ rest).head? ≠ some '/' := by
    obtain ⟨c, s, rfl⟩ := List.exists_cons_of_ne_nil nonempty
    intro h
    exact none (Option.some.inj h ▸ List.mem_cons_self)
  rw [collapseSlashes, if_neg fun h => hhead h.2, collapseSlashes_append none, List.cons_append]

theorem collapseSlashes_slash_slash (rest : List Char) :
    collapseSlashes ('/' :: '/' :: rest) = collapseSlashes ('/' :: rest) := by
  rw [collapseSlashes, if_pos ⟨rfl, rfl⟩]

/-- A normal path is its segments with a slash in front of each, and a slash at the end if the path
ends in one or has no segments. -/
theorem collapseSlashes_eq (path : List Char) :
    collapseSlashes ('/' :: path)
      = (segments path).flatMap ('/' :: ·) ++ if EndsOpen path then ['/'] else [] := by
  induction path using segment_induction with
  | last s none =>
      by_cases hs : s = []
      · subst hs
        rfl
      · have hcollapse := collapseSlashes_slash none hs []
        rw [List.append_nil] at hcollapse
        rw [hcollapse, segments_of_not_mem none hs, if_neg (not_endsOpen_of_not_mem none hs)]
        simp [collapseSlashes]
  | slash s rest none ih =>
      simp only [segments_append_slash, endsOpen_append_slash]
      by_cases hs : s = []
      · subst hs
        rw [List.nil_append, collapseSlashes_slash_slash, ih]
        rfl
      · rw [collapseSlashes_slash none hs, ih, segments_of_not_mem none hs]
        simp

/-- Collapsing slashes keeps the segments. -/
theorem segments_collapseSlashes (path : List Char) :
    segments (collapseSlashes ('/' :: path)) = segments path := by
  induction path using segment_induction with
  | last s none =>
      by_cases hs : s = []
      · subst hs
        rfl
      · have hcollapse := collapseSlashes_slash none hs []
        rw [List.append_nil] at hcollapse
        rw [hcollapse, collapseSlashes, List.append_nil, segments_cons_slash]
  | slash s rest none ih =>
      by_cases hs : s = []
      · subst hs
        rw [List.nil_append, collapseSlashes_slash_slash, ih, segments_cons_slash]
      · obtain ⟨tail, htail⟩ := exists_collapseSlashes rest
        rw [htail, segments_cons_slash] at ih
        rw [collapseSlashes_slash none hs, htail, segments_append_slash, segments_append_slash,
          segments_cons_slash, ih]

theorem isNormalForm_collapseSlashes (path : List Char) :
    IsNormalForm path (collapseSlashes ('/' :: path)) where
  isNormal := ⟨head?_collapseSlashes _, single_collapseSlashes _⟩
  segments := segments_collapseSlashes path
  ending := by
    rw [getLast?_collapseSlashes, EndsOpen]
    cases path with
    | nil => simp
    | cons c path => simp [List.getLast?_cons_cons]

/-- What is normal is its own normal form. -/
theorem IsNormal.isNormalForm {path : List Char} (h : IsNormal path) : IsNormalForm path path where
  isNormal := h
  segments := rfl
  ending := by
    obtain ⟨rest, rfl⟩ := List.head?_eq_some_iff.1 h.rooted
    exact (or_iff_right (List.cons_ne_nil _ _)).symm

/-- There is one normal form of a path. -/
theorem isNormalForm_iff {path normal : List Char} :
    IsNormalForm path normal ↔ normal = collapseSlashes ('/' :: path) := by
  refine ⟨fun h => ?_, fun h => h ▸ isNormalForm_collapseSlashes path⟩
  obtain ⟨rest, rfl⟩ := List.head?_eq_some_iff.1 h.isNormal.rooted
  have hsegments : segments rest = segments path := by
    rw [← segments_cons_slash, h.segments]
  have hending : EndsOpen rest ↔ EndsOpen path := by
    rw [← h.ending, ← endsOpen_append_slash [] rest]
    exact or_iff_right (List.cons_ne_nil _ _)
  calc '/' :: rest
      = collapseSlashes ('/' :: rest) := (collapseSlashes_of_single h.isNormal.single).symm
    _ = (segments path).flatMap ('/' :: ·) ++ if EndsOpen path then ['/'] else [] := by
      rw [collapseSlashes_eq, hsegments]
      simp only [hending]
    _ = collapseSlashes ('/' :: path) := (collapseSlashes_eq path).symm

/-- The segments of a page stand in front of the path of a service. -/
theorem collapseSlashes_append_slash (page service : List Char) :
    collapseSlashes ('/' :: (page ++ '/' :: service))
      = (segments page).flatMap ('/' :: ·) ++ collapseSlashes ('/' :: service) := by
  rw [collapseSlashes_eq, collapseSlashes_eq, segments_append_slash, List.flatMap_append,
    List.append_assoc]
  simp only [endsOpen_append_slash]

/-! ## Texts -/

theorem toList_normalizePath (path : String) :
    (normalizePath path).toList = collapseSlashes ('/' :: path.toList) := by
  rw [normalizePath, String.toList_ofList]

theorem isNormalForm_normalizePath {path normal : String} :
    IsNormalForm path.toList normal.toList ↔ normal = normalizePath path := by
  rw [isNormalForm_iff, ← toList_normalizePath, String.toList_inj]

/-- Normal paths are those that stay as they are. -/
theorem normalizePath_eq_self {path : String} :
    normalizePath path = path ↔ IsNormal path.toList := by
  constructor
  · intro h
    have hform := isNormalForm_normalizePath.2 h.symm
    exact hform.isNormal
  · exact fun h => (isNormalForm_normalizePath.1 h.isNormalForm).symm

namespace PageLocation

/-- What the text of a URL has behind the port is the normal path of the page and the service, and
it ends with the normal path of the service. -/
theorem socketText_path (location : PageLocation) (port : UInt16) (service : String) :
    ∃ path : String, location.socketText port service
        = (if location.isSecure then "wss" else "ws") ++ "://" ++ location.host ++ ":"
          ++ toString port.toNat ++ path
      ∧ IsNormal path.toList
      ∧ segments path.toList = segments location.path.toList ++ segments service.toList
      ∧ (normalizePath service).toList <:+ path.toList := by
  have hpath : (location.path ++ "/" ++ service).toList
      = location.path.toList ++ '/' :: service.toList := by
    simp
  have hform := isNormalForm_collapseSlashes (location.path.toList ++ '/' :: service.toList)
  refine ⟨normalizePath (location.path ++ "/" ++ service), rfl, ?_, ?_, ?_⟩
  · rw [toList_normalizePath, hpath]
    exact hform.isNormal
  · rw [toList_normalizePath, hpath, hform.segments, segments_append_slash]
  · rw [toList_normalizePath, toList_normalizePath, hpath, collapseSlashes_append_slash]
    exact List.suffix_append _ _

/-- Of the path of the page, the text of a URL depends on the segments only. Of the service, it
depends on whether a slash ends it as well. -/
theorem socketText_congr {location : PageLocation} {page service service' : String}
    (samePage : segments page.toList = segments location.path.toList)
    (sameService : segments service'.toList = segments service.toList)
    (sameEnd : EndsOpen service'.toList ↔ EndsOpen service.toList) (port : UInt16) :
    ({ location with path := page } : PageLocation).socketText port service'
      = location.socketText port service := by
  have hpath : normalizePath (page ++ "/" ++ service')
      = normalizePath (location.path ++ "/" ++ service) := by
    rw [← String.toList_inj, toList_normalizePath, toList_normalizePath]
    simp only [String.toList_append, List.append_assoc]
    show collapseSlashes ('/' :: (page.toList ++ '/' :: service'.toList))
      = collapseSlashes ('/' :: (location.path.toList ++ '/' :: service.toList))
    rw [collapseSlashes_append_slash, collapseSlashes_append_slash, samePage,
      collapseSlashes_eq, collapseSlashes_eq, sameService]
    simp only [sameEnd]
  unfold socketText
  rw [hpath]

/-- A path has one normal form, which is what it is normalized to, so that normal paths are those
that stay as they are. The URL of a service is the scheme, the host, the port and a normal path with
the segments of the page and the service, which ends as the service does. Slashes in front of the
path of the page, behind it or in a row are not seen in it, nor are slashes in front of the service
or in a row. -/
theorem normal_of_socketUrl :
    (∀ path normal : String,
        IsNormalForm path.toList normal.toList ↔ normal = normalizePath path)
      ∧ (∀ path, normalizePath (normalizePath path) = normalizePath path)
      ∧ (∀ path : String, normalizePath path = path ↔ IsNormal path.toList)
      ∧ (∀ (location : PageLocation) (port : UInt16) (service text : String),
        location.socketUrl port service = .ok text →
        ∃ path : String, text = (if location.isSecure then "wss" else "ws") ++ "://"
            ++ location.host ++ ":" ++ toString port.toNat ++ path
          ∧ IsNormal path.toList
          ∧ segments path.toList = segments location.path.toList ++ segments service.toList
          ∧ (normalizePath service).toList <:+ path.toList)
      ∧ ∀ (location : PageLocation) (port : UInt16) (page service service' : String),
        segments page.toList = segments location.path.toList →
        segments service'.toList = segments service.toList →
        (EndsOpen service'.toList ↔ EndsOpen service.toList) →
        ({ location with path := page } : PageLocation).socketUrl port service'
          = location.socketUrl port service := by
  refine ⟨fun path normal => isNormalForm_normalizePath, fun path => ?idempotent,
    fun path => normalizePath_eq_self, fun location port service text ok => ?shape,
    fun location port page service service' samePage sameService sameEnd => ?slashes⟩
  case idempotent =>
      have hform : IsNormalForm path.toList (normalizePath path).toList :=
        isNormalForm_normalizePath.2 rfl
      exact normalizePath_eq_self.2 hform.isNormal
  case shape =>
      have htext : text = location.socketText port service := by
        unfold socketUrl at ok
        cases hurl : parseUrl (location.socketText port service) with
        | error e =>
            rw [hurl] at ok
            cases ok
        | ok url =>
            rw [hurl] at ok
            exact (Except.ok.inj ok).symm
      rw [htext]
      exact location.socketText_path port service
  case slashes =>
      unfold socketUrl
      rw [socketText_congr samePage sameService sameEnd port]

/-- A page and a service that are full of slashes, and the same without them. -/
theorem normal_of_socketUrl_repeated :
    (⟨true, "example.org", "/tools//editor/"⟩ : PageLocation).socketUrl 443 "/ovLanguage"
        = .ok "wss://example.org:443/tools/editor/ovLanguage"
      ∧ (segments "tools/editor".toList = segments "/tools//editor/".toList
        ∧ segments "ovLanguage".toList = segments "/ovLanguage".toList
        ∧ (EndsOpen "ovLanguage".toList ↔ EndsOpen "/ovLanguage".toList))
      ∧ (∃ path : String, "wss://example.org:443/tools/editor/ovLanguage"
          = "wss" ++ "://" ++ "example.org" ++ ":" ++ toString (443 : UInt16).toNat ++ path
        ∧ segments path.toList = ["tools".toList, "editor".toList, "ovLanguage".toList])
      ∧ (⟨true, "example.org", "tools/editor"⟩ : PageLocation).socketUrl 443 "ovLanguage"
        = .ok "wss://example.org:443/tools/editor/ovLanguage" := by
  have hurl : (⟨true, "example.org", "/tools//editor/"⟩ : PageLocation).socketUrl 443 "/ovLanguage"
      = .ok "wss://example.org:443/tools/editor/ovLanguage" := by
    decide +kernel
  have hpage : segments "tools/editor".toList = segments "/tools//editor/".toList := by
    decide +kernel
  have hservice : segments "ovLanguage".toList = segments "/ovLanguage".toList := by
    decide +kernel
  have hend : EndsOpen "ovLanguage".toList ↔ EndsOpen "/ovLanguage".toList := by
    decide +kernel
  obtain ⟨-, -, -, hshape, hslashes⟩ := normal_of_socketUrl
  obtain ⟨path, htext, -, hsegments, -⟩ := hshape _ _ _ _ hurl
  refine ⟨hurl, ⟨hpage, hservice, hend⟩, ⟨path, htext, ?_⟩, ?_⟩
  · rw [hsegments]
    decide +kernel
  · rw [← hurl]
    exact hslashes ⟨true, "example.org", "/tools//editor/"⟩ 443 _ _ _ hpage hservice hend

end PageLocation

end Server

end SurfaceBridge
