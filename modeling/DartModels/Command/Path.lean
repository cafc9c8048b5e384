/-!
# Paths

A path is a row of names with slashes between them, and stands for the steps that it leads
(`Path::components`). Repeated slashes and dots behind the first name are no steps, so that two
paths with the same steps are the same path.

Result: a file in a directory is the steps of the directory and then one more, if the name of the
file is a single component (`components_join`).
-/

namespace DartModels.Command.Path

/-- One step of a path. -/
inductive Component
  | root
  /-- The dot at the start of a path. -/
  | here
  | up
  | name (name : String)
deriving DecidableEq, Repr

namespace Component

/-- The step of a name behind the first, if it is one. -/
def ofName? (s : String) : Option Component :=
  if s = "" ∨ s = "." then none else if s = ".." then some up else some (name s)

/-- The step of the first name of a path. Nothing in front of a slash is the root. -/
def ofFirst? (s : String) (alone : Bool) : Option Component :=
  if s = "." then some here else if s = "" ∧ alone = false then some root else ofName? s

end Component

/-- The names between the slashes of a path; some may be empty. -/
def names (path : String) : List String :=
  (path.toList.splitOn '/').map String.ofList

/-- The steps of names. -/
def componentsOf : List String → List Component
  | [] => []
  | s :: ss => (Component.ofFirst? s ss.isEmpty).toList ++ ss.filterMap Component.ofName?

/-- The steps of a path (`Path::components`). -/
def components (path : String) : List Component :=
  componentsOf (names path)

/-- The last step of a path, if that is a name (`Path::file_name`). -/
def fileName? (path : String) : Option String :=
  match (components path).getLast? with
  | some (.name s) => some s
  | _ => none

/-- The path starts from the root. -/
def isAbsolute (path : String) : Bool :=
  path.toList.head? == some '/'

/-- The path of a file in a directory (`Path::join`). A path from the root takes the place of the
directory. -/
def join (directory file : String) : String :=
  if isAbsolute file then file
  else if directory = "" ∨ directory.toList.getLast? = some '/' then directory ++ file
  else directory ++ "/" ++ file

/-- A name that is a single component, and leads one step down. -/
structure IsComponent (name : String) : Prop where
  slash : '/' ∉ name.toList
  ne_empty : name ≠ ""
  ne_dot : name ≠ "."
  ne_dots : name ≠ ".."

namespace IsComponent

variable {name : String}

theorem ofName?_eq (h : IsComponent name) : Component.ofName? name = some (.name name) := by
  rw [Component.ofName?, if_neg (not_or.mpr ⟨h.ne_empty, h.ne_dot⟩), if_neg h.ne_dots]

theorem names_eq (h : IsComponent name) : names name = [name] := by
  rw [names, List.splitOn_eq_singleton h.slash, List.map_singleton, String.ofList_toList]

theorem isAbsolute_eq (h : IsComponent name) : isAbsolute name = false := by
  rw [isAbsolute, beq_eq_false_iff_ne, ne_eq]
  intro hhead
  obtain ⟨s, hs⟩ := List.head?_eq_some_iff.mp hhead
  exact h.slash (hs ▸ List.mem_cons_self)

theorem components_eq (h : IsComponent name) : components name = [.name name] := by
  rw [components, h.names_eq, componentsOf, Component.ofFirst?, if_neg h.ne_dot,
    if_neg fun hr => h.ne_empty hr.1, h.ofName?_eq]
  rfl

end IsComponent

/-- A component at the end of names is one more step than nothing there. -/
theorem componentsOf_concat {ss : List String} {name : String} (hs : ss ≠ [])
    (h : IsComponent name) :
    componentsOf (ss ++ [name]) = componentsOf (ss ++ [""]) ++ [.name name] := by
  obtain ⟨s, ss, rfl⟩ := List.exists_cons_of_ne_nil hs
  have hname : [name].filterMap Component.ofName? = [.name name] := by
    rw [List.filterMap_cons_some h.ofName?_eq, List.filterMap_nil]
  have hnone : [""].filterMap Component.ofName? = [] := rfl
  have hempty : ∀ x, (ss ++ [x]).isEmpty = false := fun _ => by cases ss <;> rfl
  simp only [List.cons_append, componentsOf, List.filterMap_append, hname, hnone, List.append_nil,
    List.append_assoc, hempty]

/-- A slash behind a path is no step. -/
theorem componentsOf_concat_empty {ss : List String} (hs : ss ≠ []) (hne : ss ≠ [""]) :
    componentsOf (ss ++ [""]) = componentsOf ss := by
  obtain ⟨s, ss, rfl⟩ := List.exists_cons_of_ne_nil hs
  -- the first name is the root only if it is empty, and then it is not alone
  have hfirst : Component.ofFirst? s (ss ++ [""]).isEmpty = Component.ofFirst? s ss.isEmpty := by
    cases ss with
    | nil =>
      have hs : s ≠ "" := by
        rintro rfl
        exact hne rfl
      simp [Component.ofFirst?, hs]
    | cons t ss => rfl
  have hnone : [""].filterMap Component.ofName? = [] := rfl
  rw [List.cons_append, componentsOf, hfirst, List.filterMap_append, hnone, List.append_nil,
    componentsOf]

theorem names_ne_nil (path : String) : names path ≠ [] := by
  rw [names, ne_eq, List.map_eq_nil_iff]
  exact List.splitOn_ne_nil '/' path.toList

theorem eq_empty_of_names {path : String} (h : names path = [""]) : path = "" := by
  obtain ⟨s, hs, hempty⟩ := List.map_eq_singleton_iff.mp h
  have hjoin : ['/'].intercalate (path.toList.splitOn '/') = path.toList :=
    List.intercalate_splitOn '/'
  rw [hs, String.ofList_eq_empty_iff.mp hempty] at hjoin
  exact String.toList_eq_nil_iff.mp hjoin.symm

theorem names_append_slash (path : String) {file : String} (h : '/' ∉ file.toList) :
    names (path ++ "/" ++ file) = names path ++ [file] := by
  have hlist : (path ++ "/" ++ file).toList = path.toList ++ '/' :: file.toList := by simp
  rw [names, hlist, List.splitOn_append_cons_self, List.splitOn_eq_singleton h, List.map_append,
    List.map_singleton, String.ofList_toList, names]

/-- **A file's path is the steps of its directory and one more**, if its name is a single
component. -/
theorem components_join (directory : String) {file : String} (h : IsComponent file) :
    components (join directory file) = components directory ++ [.name file] := by
  unfold join
  rw [if_neg (by rw [h.isAbsolute_eq]; decide)]
  split
  · rename_i hd
    rcases hd with rfl | hd
    · rw [String.empty_append, h.components_eq]
      rfl
    · obtain ⟨d, hd⟩ := List.getLast?_eq_some_iff.mp hd
      obtain rfl : directory = String.ofList d ++ "/" := by
        rw [← String.toList_inj, hd, String.toList_append, String.toList_ofList]
        rfl
      have hslash : names (String.ofList d ++ "/") = names (String.ofList d) ++ [""] := by
        simpa using names_append_slash (String.ofList d) (by simp : '/' ∉ "".toList)
      rw [components, names_append_slash _ h.slash, componentsOf_concat (names_ne_nil _) h,
        components, hslash]
  · rename_i hd
    obtain ⟨hne, -⟩ := not_or.mp hd
    have hnames : names directory ≠ [""] := fun h => hne (eq_empty_of_names h)
    rw [components, names_append_slash _ h.slash, componentsOf_concat (names_ne_nil _) h,
      componentsOf_concat_empty (names_ne_nil _) hnames, components]

end DartModels.Command.Path
