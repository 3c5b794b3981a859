import EtcdBackup.Path
import EtcdBackup.Proofs.Text.Utf8

/-!
# Names in paths

A name that is joined to a directory is found again as the last part of the path, whatever the
directory is called (`fileName?_join`). More generally it is the file name of every path that ends in
it, whatever stands in front and behind (`EndsIn.fileName?`).
-/

set_option autoImplicit false
set_option relaxedAutoImplicit false

namespace EtcdBackup

namespace Text

variable {separates : Char → Bool}

theorem splitWhere_ne_nil (separates : Char → Bool) (cs : List Char) :
    splitWhere separates cs ≠ [] := by
  cases cs with
  | nil => exact List.cons_ne_nil _ _
  | cons c cs =>
    rw [splitWhere]
    split
    · exact List.cons_ne_nil _ _
    · split <;> exact List.cons_ne_nil _ _

theorem splitWhere_of_forall {cs : List Char} (h : ∀ c ∈ cs, separates c = false) :
    splitWhere separates cs = [cs] := by
  induction cs with
  | nil => rfl
  | cons c cs ih =>
    obtain ⟨hc, hcs⟩ := List.forall_mem_cons.1 h
    simp only [splitWhere, ih hcs, hc, Bool.false_eq_true, if_false]

/-- What stands on the two sides of a separator is split on its own. -/
theorem splitWhere_append_cons {c : Char} (h : separates c = true) (before after : List Char) :
    splitWhere separates (before ++ c :: after) =
      splitWhere separates before ++ splitWhere separates after := by
  induction before with
  | nil => simp only [List.nil_append, splitWhere, h, if_true, List.cons_append]
  | cons d before ih =>
    rw [List.cons_append, splitWhere, splitWhere, ih]
    split
    · rfl
    · obtain ⟨part, others, hparts⟩ :=
        List.exists_cons_of_ne_nil (splitWhere_ne_nil separates before)
      rw [hparts]
      rfl

theorem endsWith_iff {s ending : String} :
    s.endsWith ending = true ↔ ending.toList <:+ s.toList := by
  rw [← String.endsWith_toSlice, String.Slice.endsWith_string_iff, String.copy_toSlice]

end Text

namespace Path

/-- What can be the last part of a path. -/
structure IsName (name : String) : Prop where
  slash : '/' ∉ name.toList
  some : name ≠ ""
  here : name ≠ "."
  up : name ≠ ".."

theorem IsName.startsWith_ne {name : String} (h : IsName name) : ¬name.startsWith "/" = true := by
  rw [String.startsWith_string_iff]
  exact fun front ↦ h.slash (front.subset List.mem_cons_self)

/-- What is appended to a path is appended to the name. -/
theorem join_append (directory : String) {name extension : String} (h : IsName name)
    (h' : IsName (name ++ extension)) :
    join directory name ++ extension = join directory (name ++ extension) := by
  rw [join, join, if_neg h.startsWith_ne, if_neg h'.startsWith_ne]
  split
  all_goals rw [String.append_assoc]

/-- A path inside a directory ends in the name, with nothing or a slash in front. -/
theorem toList_join (directory : String) {name : String} (h : IsName name) :
    ∃ front, (join directory name).toList = front ++ name.toList ∧
      (front = [] ∨ ∃ before, front = before ++ ['/']) := by
  rw [join, if_neg h.startsWith_ne]
  split
  case isTrue hdir =>
    refine ⟨directory.toList, String.toList_append, ?_⟩
    rcases hdir with hends | rfl
    · obtain ⟨before, hbefore⟩ := Text.endsWith_iff.1 hends
      exact Or.inr ⟨before, hbefore.symm⟩
    · exact Or.inl rfl
  case isFalse =>
    refine ⟨directory.toList ++ ['/'], ?_, Or.inr ⟨_, rfl⟩⟩
    rw [String.toList_append, String.toList_append]
    rfl

/-- The bytes of a path end in those of the name. -/
theorem encode_join (directory : String) {name : String} (h : IsName name) :
    Utf8.encode name <:+ Utf8.encode (join directory name) := by
  obtain ⟨front, hjoin, -⟩ := toList_join directory h
  rw [Utf8.encode_eq, Utf8.encode_eq, hjoin, List.flatMap_append]
  exact List.suffix_append _ _

/-! ### What a path ends in -/

/-- What stands on the two sides of a slash counts on its own. -/
theorem parts_append_slash (before after : String) :
    parts (before ++ "/" ++ after) = parts before ++ parts after := by
  have hslash : (before ++ "/" ++ after).toList = before.toList ++ '/' :: after.toList := by
    rw [String.toList_append, String.toList_append, List.append_assoc]
    rfl
  unfold parts Text.splitOn
  rw [hslash, Text.splitWhere_append_cons (decide_eq_true rfl), List.map_append,
    List.filter_append]

theorem IsName.parts_eq {name : String} (h : IsName name) : parts name = [name] := by
  have hwhole : Text.splitWhere (fun c ↦ decide (c = '/')) name.toList = [name.toList] :=
    Text.splitWhere_of_forall fun c hc ↦ decide_eq_false fun heq ↦ h.slash (heq ▸ hc)
  unfold parts Text.splitOn
  rw [hwhole, List.map_singleton, String.ofList_toList]
  exact List.filter_cons_of_pos (decide_eq_true ⟨h.some, h.here⟩)

/-- The path ends in a name: a slash or nothing stands in front of it, and what is behind it does
not count. -/
structure EndsIn (path name front back : String) : Prop where
  path : path = front ++ name ++ back
  front : front = "" ∨ ∃ before, front = before ++ "/"
  back : back = "" ∨ ∃ after, back = "/" ++ after ∧ parts after = []

/-- The name that a path ends in is its file name. -/
theorem EndsIn.fileName? {path name front back : String} (h : EndsIn path name front back)
    (isName : IsName name) : fileName? path = .some name := by
  have hback : parts (name ++ back) = [name] := by
    rcases h.back with rfl | ⟨after, rfl, hafter⟩
    · rw [String.append_empty, isName.parts_eq]
    · rw [← String.append_assoc, parts_append_slash, hafter, isName.parts_eq]
      rfl
  have hlast : ∃ others, parts path = others ++ [name] := by
    rw [h.path, String.append_assoc]
    rcases h.front with rfl | ⟨before, rfl⟩
    · exact ⟨[], by rw [String.empty_append, hback]; rfl⟩
    · exact ⟨parts before, by rw [parts_append_slash, hback]⟩
  obtain ⟨others, hparts⟩ := hlast
  unfold Path.fileName?
  rw [hparts, List.getLast?_concat]
  exact if_neg isName.up

theorem exists_endsIn_join (directory : String) {name : String} (h : IsName name) :
    ∃ front, EndsIn (join directory name) name front "" := by
  obtain ⟨front, hjoin, hfront⟩ := toList_join directory h
  refine ⟨String.ofList front, ?_, ?_, .inl rfl⟩
  · rw [← String.toList_inj, hjoin]
    simp
  · rcases hfront with rfl | ⟨before, rfl⟩
    · exact .inl rfl
    · exact .inr ⟨String.ofList before, String.ofList_append⟩

/-- The name of a file is found again. -/
theorem fileName?_join (directory : String) {name : String} (h : IsName name) :
    fileName? (join directory name) = .some name := by
  obtain ⟨front, hends⟩ := exists_endsIn_join directory h
  exact hends.fileName? h

end Path

end EtcdBackup
