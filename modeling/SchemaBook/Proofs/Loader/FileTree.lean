import Mathlib.Tactic
import SchemaBook.Loader.FileTree

/-!
The files of a tree under a write. A directory is made only where nothing stands, so making
directories changes no file. A file is put where a path leads to a file or to a free place, and the
path leads to that file from then on. Main statement: an attempt to write a text is refused with all
files as they were, or puts one file in the place of what stood there: the octets of the text, or
none where the text has no octets.
-/

namespace SchemaBook

/-- Whether a file can be put where a path leads, which is at the key: there is one, or nothing
stands there. -/
def FilePlace.IsOpenAt : FilePlace → List Text → Prop
  | .free key, target => key = target
  | .found key (.file _), target => key = target
  | _, _ => False

/-- What stands where a path leads. -/
def FilePlace.node? : FilePlace → Option FileNode
  | .found _ node => some node
  | _ => none

theorem FilePlace.IsOpenAt.node?_ne {place : FilePlace} {target : List Text}
    (h : place.IsOpenAt target) : place.node? ≠ some .directory := by
  rintro hnode
  rcases place with ⟨key, _ | octets⟩ | _ | _
  · exact h
  all_goals cases hnode

namespace FileTree

def HasFile (t : FileTree) (key : List Text) (octets : List UInt8) : Prop :=
  t.node? key = some (.file octets)

/-- Two trees have the same files with the same octets. Directories may differ. -/
def SameFiles (before after : FileTree) : Prop :=
  ∀ key octets, before.HasFile key octets ↔ after.HasFile key octets

theorem SameFiles.refl (t : FileTree) : t.SameFiles t := fun _ _ => Iff.rfl

theorem SameFiles.trans {t reached after : FileTree} (h : t.SameFiles reached)
    (hnext : reached.SameFiles after) : t.SameFiles after :=
  fun key octets => (h key octets).trans (hnext key octets)

private theorem lookup_cons_eq {name key : List Text} {node : FileNode}
    {nodes : List (List Text × FileNode)} :
    ((name, node) :: nodes).lookup key = if key = name then some node else nodes.lookup key := by
  by_cases h : key = name
  · simp [h]
  · simp [List.lookup_cons, h, beq_false_of_ne h]

/-- Where entries of a key are replaced, only the look-up of this key changes. -/
theorem lookup_replace (nodes : List (List Text × FileNode)) (key other : List Text)
    (node : FileNode) :
    (nodes.map fun entry => if entry.1 = key then (key, node) else entry).lookup other =
      if other = key then (nodes.lookup key).map fun _ => node else nodes.lookup other := by
  induction nodes with
  | nil => simp
  | cons entry rest ih =>
    obtain ⟨name, old⟩ := entry
    rw [List.map_cons]
    by_cases hname : name = key
    · subst hname
      rw [if_pos rfl, lookup_cons_eq, lookup_cons_eq, lookup_cons_eq, if_pos rfl, ih]
      split_ifs <;> rfl
    · rw [if_neg hname, lookup_cons_eq, lookup_cons_eq, lookup_cons_eq, if_neg (Ne.symm hname), ih]
      split_ifs with hother hkey
      · exact absurd (hother.symm.trans hkey) hname
      all_goals rfl

theorem lookup_put (t : FileTree) (key other : List Text) (node : FileNode) :
    (t.put key node).nodes.lookup other =
      if other = key then some node else t.nodes.lookup other := by
  unfold put
  split
  case isTrue hthere =>
    obtain ⟨old, hold⟩ := Option.isSome_iff_exists.1 hthere
    rw [lookup_replace, hold, Option.map_some]
  case isFalse hnew =>
    rw [Option.not_isSome_iff_eq_none] at hnew
    rw [List.lookup_append, lookup_cons_eq, List.lookup_nil]
    split
    · next hother => rw [hother, hnew, Option.none_or]
    · rw [Option.or_none]

@[simp]
theorem workingDirectory_put (t : FileTree) (key : List Text) (node : FileNode) :
    (t.put key node).workingDirectory = t.workingDirectory := by
  unfold put
  split <;> rfl

@[simp]
theorem start_put (t : FileTree) (key : List Text) (node : FileNode) (path : FilePath) :
    (t.put key node).start path = t.start path := by
  rw [start, start, workingDirectory_put]

/-- The directories that lead to the working directory are no place for a file. -/
theorem isPrefixOf_eq_false {t : FileTree} {key : List Text}
    (h : t.node? key ≠ some .directory) : key.isPrefixOf t.workingDirectory = false := by
  by_contra hprefix
  rw [Bool.not_eq_false] at hprefix
  exact h (by rw [node?, if_pos hprefix])

theorem node?_put {t : FileTree} {key : List Text} (h : t.node? key ≠ some .directory)
    (other : List Text) (node : FileNode) :
    (t.put key node).node? other = if other = key then some node else t.node? other := by
  have hkey := isPrefixOf_eq_false h
  unfold node?
  rw [lookup_put, workingDirectory_put]
  by_cases hother : other = key
  · subst hother
    simp [hkey]
  · simp only [if_neg hother]

/-- A name that does not lead upwards leads on through a directory, and is the last one otherwise.
-/
theorem walk_cons_cases {t : FileTree} {key rest target : List Text} {name : Text}
    (habove : name ≠ above) (h : (t.walk key (name :: rest)).IsOpenAt target) :
    ¬FilePath.nameLimit < Text.octetCount name ∧
      (t.node? (key ++ [name]) = some .directory ∧
          t.walk key (name :: rest) = t.walk (key ++ [name]) rest ∨
        rest = [] ∧ key ++ [name] = target ∧ t.node? target = (t.walk key [name]).node?) := by
  rw [walk, if_neg habove] at h ⊢
  split at h
  case isTrue => exact h.elim
  case isFalse hshort =>
    refine ⟨hshort, ?_⟩
    rw [if_neg hshort]
    split at h
    case h_1 hnode => exact .inl ⟨hnode, rfl⟩
    all_goals
      next hnode =>
      cases rest with
      | cons => exact h.elim
      | nil =>
        obtain rfl : key ++ [name] = target := h
        refine .inr ⟨rfl, rfl, ?_⟩
        rw [walk, if_neg habove, if_neg hshort, hnode]
        rfl

theorem node?_of_isOpenAt {t : FileTree} {key names target : List Text}
    (h : (t.walk key names).IsOpenAt target) : t.node? target = (t.walk key names).node? := by
  induction names generalizing key with
  | nil => exact h.elim
  | cons name rest ih =>
    by_cases habove : name = above
    · rw [walk, if_pos habove] at h ⊢
      exact ih h
    · obtain ⟨-, ⟨-, hwalk⟩ | ⟨rfl, -, hnode⟩⟩ := walk_cons_cases habove h
      · rw [hwalk] at h ⊢
        exact ih h
      · exact hnode

/-- A path leads to the file that was put where it led. -/
theorem walk_put {t : FileTree} {key names target : List Text}
    (h : (t.walk key names).IsOpenAt target) (octets : List UInt8) :
    (t.put target (.file octets)).walk key names = .found target (.file octets) := by
  -- The directories on the way stand at other keys than the file, so the walk is the same so far.
  have hopen := h.node?_ne
  rw [← node?_of_isOpenAt h] at hopen
  have hput := node?_put hopen
  induction names generalizing key with
  | nil => exact h.elim
  | cons name rest ih =>
    by_cases habove : name = above
    · rw [walk, if_pos habove] at h ⊢
      exact ih h
    · obtain ⟨hshort, ⟨hdirectory, hwalk⟩ | ⟨rfl, rfl, -⟩⟩ := walk_cons_cases habove h
      · have hother : key ++ [name] ≠ target := by
          rintro rfl
          exact hopen hdirectory
        rw [walk, if_neg habove, if_neg hshort, hput, if_neg hother, hdirectory]
        exact ih (hwalk ▸ h)
      · rw [walk, if_neg habove, if_neg hshort, hput, if_pos rfl]
        rfl

/-- The second tree has one file with these octets, where a path leads, and otherwise the files of
the first. -/
structure WritesAt (before after : FileTree) (path : FilePath) (key : List Text)
    (octets : List UInt8) : Prop where
  found : after.place path = .found key (.file octets)
  hasFile : after.HasFile key octets
  others : ∀ other, other ≠ key → ∀ octets, before.HasFile other octets ↔ after.HasFile other octets

/-- A path that leads to a place for a file is no longer than paths can be. -/
theorem place_eq_walk {t : FileTree} {path : FilePath} {key : List Text}
    (h : (t.place path).IsOpenAt key) (other : FileTree) :
    other.place path = other.walk (other.start path) path.parts := by
  unfold place at h
  split at h
  case isTrue => exact h.elim
  case isFalse hlength => rw [place, if_neg hlength]

section Open

variable {t : FileTree} {path : FilePath} {key : List Text} (h : (t.place path).IsOpenAt key)

include h

theorem node?_of_place : t.node? key = (t.place path).node? := by
  have hplace := place_eq_walk h t
  rw [hplace] at h ⊢
  exact node?_of_isOpenAt h

theorem node?_put_of_place (other : List Text) (node : FileNode) :
    (t.put key node).node? other = if other = key then some node else t.node? other := by
  refine node?_put ?_ other node
  rw [node?_of_place h]
  exact h.node?_ne

theorem writesAt_put (octets : List UInt8) :
    WritesAt t (t.put key (.file octets)) path key octets := by
  have hput := node?_put_of_place h
  constructor
  case found =>
    have hwalk : (t.walk (t.start path) path.parts).IsOpenAt key := place_eq_walk h t ▸ h
    rw [place_eq_walk h, start_put]
    exact walk_put hwalk octets
  case hasFile => rw [HasFile, hput, if_pos rfl]
  case others =>
    intro other hother octets
    rw [HasFile, HasFile, hput, if_neg hother]

end Open

theorem WritesAt.of_sameFiles {t reached after : FileTree} {path : FilePath} {key : List Text}
    {octets : List UInt8} (h : WritesAt reached after path key octets)
    (hfiles : t.SameFiles reached) : WritesAt t after path key octets :=
  { h with others := fun other hother octets =>
      (hfiles other octets).trans (h.others other hother octets) }

/-- A file that is replaced by itself leaves all files as they were. -/
theorem WritesAt.sameFiles {before after : FileTree} {path : FilePath} {key : List Text}
    {octets : List UInt8} (h : WritesAt before after path key octets)
    (hbefore : before.HasFile key octets) : before.SameFiles after := by
  intro other others
  by_cases hother : other = key
  · subst hother
    have hafter := h.hasFile
    unfold HasFile at hbefore hafter ⊢
    rw [hbefore, hafter]
  · exact h.others other hother others

/-- Making a directory changes no file. -/
theorem sameFiles_makeDirectory {t made : FileTree} {path : FilePath}
    (h : t.makeDirectory path = .ok made) : t.SameFiles made := by
  unfold makeDirectory at h
  split at h
  case isTrue => cases h
  case isFalse =>
    split at h
    case h_2 key hplace =>
      obtain rfl := Except.ok.inj h
      have hopen : (t.place path).IsOpenAt key := by rw [hplace]; rfl
      have hfree : t.node? key = none := by rw [node?_of_place hopen, hplace]; rfl
      intro other octets
      rw [HasFile, HasFile, node?_put_of_place hopen]
      split
      · next hother => simp [hother, hfree]
      · rfl
    all_goals cases h

theorem makeDirectory_ne_encoding {t : FileTree} {path : FilePath} (fault : Text.EncodeFault) :
    t.makeDirectory path ≠ .error (.encoding fault) := by
  unfold makeDirectory
  split
  · simp
  · split <;> simp

theorem sameFiles_ensureDirectory {t made : FileTree} {path : FilePath}
    (h : t.ensureDirectory path = .ok made) : t.SameFiles made := by
  unfold ensureDirectory at h
  split at h
  case h_1 hmade =>
    obtain rfl := Except.ok.inj h
    exact sameFiles_makeDirectory hmade
  case h_2 =>
    split at h
    case isTrue =>
      obtain rfl := Except.ok.inj h
      exact SameFiles.refl t
    case isFalse => cases h

theorem ensureDirectory_ne_encoding {t : FileTree} {path : FilePath} (fault : Text.EncodeFault) :
    t.ensureDirectory path ≠ .error (.encoding fault) := by
  unfold ensureDirectory
  split
  case h_1 => simp
  case h_2 other hother =>
    split
    · simp
    · rintro heq
      obtain rfl := Except.error.inj heq
      exact makeDirectory_ne_encoding fault hother

/-- Making directories changes no file, whether or not it succeeds, and encodes nothing. -/
theorem makeDirectories_sameFiles (steps : Nat) (t : FileTree) (path : FilePath) :
    t.SameFiles (makeDirectories steps t path).1 ∧
      ∀ fault, (makeDirectories steps t path).2 ≠ some (.encoding fault) := by
  fun_induction makeDirectories steps t path with
  | case1 t path => exact ⟨SameFiles.refl t, by simp⟩
  | case2 steps t path made hmade => exact ⟨sameFiles_ensureDirectory hmade, by simp⟩
  | case3 steps t path name hfault htop => exact ⟨SameFiles.refl t, by simp⟩
  | case4 steps t path name hmissing htop reached fault habove ih =>
    rw [habove] at ih
    exact ih
  | case5 steps t path name hmissing htop reached habove made hmade ih =>
    rw [habove] at ih
    exact ⟨ih.1.trans (sameFiles_ensureDirectory hmade), by simp⟩
  | case6 steps t path name hmissing htop reached habove fault hfault ih =>
    rw [habove] at ih
    refine ⟨ih.1, ?_⟩
    rintro other ⟨⟩
    exact ensureDirectory_ne_encoding other hfault
  | case7 steps t path fault hother hfault =>
    refine ⟨SameFiles.refl t, ?_⟩
    rintro other ⟨⟩
    exact ensureDirectory_ne_encoding other hfault

/-- What an attempt to write a text can come to: the tree that is reached, and the fault if any. -/
inductive WriteOutcome (t : FileTree) (path : FilePath) (text : Text) :
    FileTree × Option WriteFault → Prop where
  | refused {reached : FileTree} {fault : WriteFault} (files : t.SameFiles reached)
      (isOther : ∀ other, fault ≠ .encoding other) : WriteOutcome t path text (reached, some fault)
  /-- The file is there before the text is encoded, so it is empty when that fails. -/
  | emptied {reached : FileTree} {key : List Text} {fault : Text.EncodeFault}
      (writes : WritesAt t reached path key []) (encoding : Text.encodeUtf8 text = .error fault) :
      WriteOutcome t path text (reached, some (.encoding fault))
  | written {reached : FileTree} {key : List Text} {octets : List UInt8}
      (writes : WritesAt t reached path key octets) (encoding : Text.encodeUtf8 text = .ok octets) :
      WriteOutcome t path text (reached, none)

/-- What comes of a write in one tree comes of it from every tree with the same files. -/
theorem WriteOutcome.of_sameFiles {t reached : FileTree} {path : FilePath} {text : Text}
    {outcome : FileTree × Option WriteFault} (hfiles : t.SameFiles reached)
    (h : WriteOutcome reached path text outcome) : WriteOutcome t path text outcome := by
  cases h with
  | refused files isOther => exact .refused (hfiles.trans files) isOther
  | emptied writes encoding => exact .emptied (writes.of_sameFiles hfiles) encoding
  | written writes encoding => exact .written (writes.of_sameFiles hfiles) encoding

theorem writeFile_outcome (t : FileTree) (path : FilePath) (text : Text) :
    WriteOutcome t path text (t.writeFile path text) := by
  unfold writeFile
  extract_lets write
  have hwrite : ∀ key, (t.place path).IsOpenAt key → WriteOutcome t path text (write key) := by
    intro key hopen
    unfold write
    split
    case h_1 fault hfault => exact .emptied (writesAt_put hopen []) hfault
    case h_2 octets hoctets => exact .written (writesAt_put hopen octets) hoctets
  by_cases hnul : path.hasNul = true
  · rw [if_pos hnul]
    exact .refused (SameFiles.refl t) (by simp)
  · rw [if_neg hnul]
    rcases hplace : t.place path with ⟨key, _ | octets⟩ | key | kind
    · exact .refused (SameFiles.refl t) (by simp)
    · exact hwrite key (by rw [hplace]; rfl)
    · exact hwrite key (by rw [hplace]; rfl)
    · exact .refused (SameFiles.refl t) (by simp)

/-- An attempt to write a text is refused, or replaces the file that the path leads to and no other
one. -/
theorem writeText_outcome (t : FileTree) (path : FilePath) (text : Text) :
    WriteOutcome t path (Text.endedLine text) (t.writeText path text) := by
  obtain ⟨hfiles, hother⟩ := makeDirectories_sameFiles (path.parts.length + 1) t path.parent
  unfold writeText
  rcases hmade : makeDirectories (path.parts.length + 1) t path.parent with ⟨reached, _ | fault⟩
  · rw [hmade] at hfiles
    exact (writeFile_outcome reached path (Text.endedLine text)).of_sameFiles hfiles
  · rw [hmade] at hfiles hother
    exact .refused hfiles fun other heq => hother other (congrArg some heq)

/-- A path from the root is written to from any working directory, and its directory is made. -/
example : ((⟨["work"], []⟩ : FileTree).writeText (FilePath.ofText "/srv/erd.md") "Shop").1.node?
    ["srv", "erd.md"] = some (.file [0x53, 0x68, 0x6f, 0x70, 0x0a]) := by
  decide +kernel

end FileTree

end SchemaBook
