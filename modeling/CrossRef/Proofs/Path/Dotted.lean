import CrossRef.Fragment
import CrossRef.Path

/-! Dotted text and what is read from it. A text says no more than the names between its dots. They
are read as projections one after the other and written with dots between them again, so every text
comes back. A path or a fragment comes back if it is made of such projections. -/

namespace CrossRef

namespace Dotted

theorem pieces_eq_splitOn (cs : List Char) : pieces cs = cs.splitOn '.' := by
  induction cs with
  | nil => rfl
  | cons c cs ih =>
    rw [List.splitOn_cons_eq_if_modifyHead, pieces, ih]
    simp only [beq_iff_eq]

theorem split_eq (text : String) : split text = (text.split '.').toList.map (·.copy) := by
  rw [String.toList_split_char, split, pieces_eq_splitOn]

theorem unpieces_eq_intercalate (ps : List (List Char)) : unpieces ps = ['.'].intercalate ps := by
  fun_induction unpieces with
  | case1 => rfl
  | case2 p => rw [List.intercalate_singleton]
  | case3 p q ps ih => rw [List.intercalate_cons_cons, ih, List.append_assoc, List.singleton_append]

theorem join_eq (names : List String) : join names = ".".intercalate names := by
  have hdot : ".".toList = ['.'] := rfl
  rw [join, unpieces_eq_intercalate, ← hdot, ← String.toList_intercalate, String.ofList_toList]

theorem join_projection (parent name : String) (names : List String) :
    join ((parent ++ "." ++ name) :: names) = join (parent :: name :: names) := by
  rw [join_eq, join_eq, String.intercalate_cons_append, String.intercalate_cons_cons]

theorem split_join {names : List String} (hne : names ≠ [])
    (hnames : ∀ name ∈ names, '.' ∉ name.toList) : split (join names) = names := by
  have hdot : "." = String.singleton '.' := rfl
  rw [split_eq, join_eq, hdot, String.toList_split_intercalate hnames, if_neg hne]

theorem split_ne_nil (text : String) : split text ≠ [] := by
  rw [split, ne_eq, List.map_eq_nil_iff]
  exact pieces_ne_nil text.toList

theorem dot_notMem_of_mem_pieces (cs : List Char) : ∀ piece ∈ pieces cs, '.' ∉ piece := by
  induction cs with
  | nil => simp [pieces]
  | cons c cs ih =>
    rw [pieces]
    split
    case isTrue =>
      rw [List.forall_mem_cons]
      exact ⟨List.not_mem_nil, ih⟩
    case isFalse hc =>
      obtain ⟨p, ps, hpieces⟩ := List.exists_cons_of_ne_nil (pieces_ne_nil cs)
      rw [hpieces, List.forall_mem_cons] at ih
      rw [hpieces, List.modifyHead_cons, List.forall_mem_cons, List.mem_cons]
      exact ⟨not_or.mpr ⟨Ne.symm hc, ih.1⟩, ih.2⟩

theorem dot_notMem_of_mem_split {text name : String} (h : name ∈ split text) :
    '.' ∉ name.toList := by
  obtain ⟨piece, hpiece, rfl⟩ := List.mem_map.mp h
  rw [String.toList_ofList]
  exact dot_notMem_of_mem_pieces text.toList piece hpiece

theorem foldl_iff {α : Type} {dot : α → String → α} {P : α → Prop}
    (h : ∀ parent name, P (dot parent name) ↔ P parent ∧ '.' ∉ name.toList)
    (names : List String) (parent : α) :
    P (names.foldl dot parent) ↔ P parent ∧ ∀ name ∈ names, '.' ∉ name.toList := by
  induction names generalizing parent with
  | nil => simp
  | cons name names ih => rw [List.foldl_cons, ih, h, and_assoc, List.forall_mem_cons]

end Dotted

namespace Path

def IsDotted : Path → Prop
  | root name => '.' ∉ name.toList
  | dot parent name => parent.IsDotted ∧ '.' ∉ name.toList
  | resolved _ | apply _ _ => False

theorem isDotted_foldl_dot (names : List String) (path : Path) :
    (names.foldl dot path).IsDotted ↔ path.IsDotted ∧ ∀ name ∈ names, '.' ∉ name.toList :=
  Dotted.foldl_iff (fun _ _ => Iff.rfl) names path

theorem IsDotted.exists_foldl {path : Path} (h : path.IsDotted) :
    ∃ (name : String) (names : List String), path = names.foldl dot (root name) := by
  induction path with
  | resolved path => cases h
  | root name => exact ⟨name, [], rfl⟩
  | dot parent name ih =>
    obtain ⟨first, names, rfl⟩ := ih h.1
    refine ⟨first, names ++ [name], ?_⟩
    rw [List.foldl_append, List.foldl_cons, List.foldl_nil]
  | apply functor argument => cases h

theorem text_foldl_dot (names : List String) (path : Path) :
    (names.foldl dot path).text = Dotted.join (path.text :: names) := by
  induction names generalizing path with
  | nil => rw [List.foldl_nil, Dotted.join_eq, String.intercalate_singleton]
  | cons name names ih => rw [List.foldl_cons, ih, text, Dotted.join_projection]

theorem dotted_of_split {text name : String} {names : List String}
    (h : Dotted.split text = name :: names) : dotted text = names.foldl dot (root name) := by
  rw [dotted, h]

theorem text_dotted (text : String) : (dotted text).text = text := by
  obtain ⟨name, names, hsplit⟩ := List.exists_cons_of_ne_nil (Dotted.split_ne_nil text)
  rw [dotted_of_split hsplit, text_foldl_dot, Path.text, ← hsplit, Dotted.join_split]

theorem isDotted_dotted (text : String) : (dotted text).IsDotted := by
  obtain ⟨name, names, hsplit⟩ := List.exists_cons_of_ne_nil (Dotted.split_ne_nil text)
  have hnames : ∀ n ∈ name :: names, '.' ∉ n.toList := by
    rw [← hsplit]
    exact fun n hn => Dotted.dot_notMem_of_mem_split hn
  rw [dotted_of_split hsplit, isDotted_foldl_dot]
  exact List.forall_mem_cons.mp hnames

theorem dotted_text_iff {path : Path} : dotted path.text = path ↔ path.IsDotted := by
  constructor
  · intro h
    -- Nothing else is ever read from a text.
    rw [← h]
    exact isDotted_dotted path.text
  · intro h
    obtain ⟨name, names, rfl⟩ := h.exists_foldl
    have hnames : ∀ n ∈ name :: names, '.' ∉ n.toList :=
      List.forall_mem_cons.mpr ((isDotted_foldl_dot names (root name)).mp h)
    have hsplit := Dotted.split_join (List.cons_ne_nil name names) hnames
    rw [text_foldl_dot, text, dotted_of_split hsplit]

end Path

namespace Fragment

def IsDotted : Fragment → Prop
  | root => True
  | dot parent name => parent.IsDotted ∧ '.' ∉ name.toList
  | resolved _ => False

theorem isDotted_foldl_dot (names : List String) (fragment : Fragment) :
    (names.foldl dot fragment).IsDotted ↔
      fragment.IsDotted ∧ ∀ name ∈ names, '.' ∉ name.toList :=
  Dotted.foldl_iff (fun _ _ => Iff.rfl) names fragment

theorem IsDotted.foldl_segments {fragment : Fragment} (h : fragment.IsDotted) :
    fragment.segments.foldl dot root = fragment := by
  induction fragment with
  | resolved fragment => cases h
  | root => rfl
  | dot parent name ih => rw [segments, List.foldl_append, ih h.1, List.foldl_cons, List.foldl_nil]

theorem segments_foldl_dot (names : List String) (fragment : Fragment) :
    (names.foldl dot fragment).segments = fragment.segments ++ names := by
  induction names generalizing fragment with
  | nil => rw [List.foldl_nil, List.append_nil]
  | cons name names ih =>
    rw [List.foldl_cons, ih, segments, List.append_assoc, List.singleton_append]

theorem segments_dotted (text : String) : (dotted text).segments = Dotted.split text := by
  rw [dotted, segments_foldl_dot, segments, List.nil_append]

theorem text_dotted (text : String) : (dotted text).text = text := by
  rw [Fragment.text, segments_dotted, Dotted.join_split]

theorem isDotted_dotted (text : String) : (dotted text).IsDotted :=
  (isDotted_foldl_dot _ root).mpr ⟨trivial, fun _ hname => Dotted.dot_notMem_of_mem_split hname⟩

theorem dotted_ne_root (text : String) : dotted text ≠ root := by
  intro h
  have hsegments : Dotted.split text = [] := by rw [← segments_dotted, h, segments]
  exact Dotted.split_ne_nil text hsegments

theorem dotted_text_iff {fragment : Fragment} :
    dotted fragment.text = fragment ↔ fragment.IsDotted ∧ fragment ≠ root := by
  constructor
  · intro h
    rw [← h]
    exact ⟨isDotted_dotted fragment.text, dotted_ne_root fragment.text⟩
  · rintro ⟨h, hroot⟩
    have hfold := h.foldl_segments
    have hne : fragment.segments ≠ [] := by
      intro hnil
      rw [hnil] at hfold
      exact hroot hfold.symm
    have hnames : ∀ name ∈ fragment.segments, '.' ∉ name.toList := by
      rw [← hfold, isDotted_foldl_dot] at h
      exact h.2
    rw [text, dotted, Dotted.split_join hne hnames, hfold]

end Fragment

/-- A text that is read as a path or as a fragment is written again as it was, and the names of the
fragment are the pieces of the text between its dots. A path or a fragment that is written is read
again as it was exactly when it is made of projections whose names have no dot; a fragment needs one
projection at least. -/
theorem dotted_text_round_trip :
    (∀ text : String, (Path.dotted text).text = text ∧ (Fragment.dotted text).text = text ∧
      (Fragment.dotted text).segments = (text.split '.').toList.map (·.copy)) ∧
    (∀ path : Path, Path.dotted path.text = path ↔ path.IsDotted) ∧
    ∀ fragment : Fragment, Fragment.dotted fragment.text = fragment ↔
      fragment.IsDotted ∧ fragment ≠ .root := by
  refine ⟨fun text => ⟨Path.text_dotted text, Fragment.text_dotted text, ?_⟩, ?_, ?_⟩
  · rw [Fragment.segments_dotted, Dotted.split_eq]
  · exact fun path => Path.dotted_text_iff
  · exact fun fragment => Fragment.dotted_text_iff

example : Path.dotted (Path.root "M.t").text = (Path.root "M").dot "t" := by decide

end CrossRef
