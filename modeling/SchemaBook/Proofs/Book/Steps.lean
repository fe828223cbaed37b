import SchemaBook.Proofs.Book.Chapters

/-!
Books under any sequence of changes. A caller may name chapters, put models into them one by one
and add models by their tags, in any order and with records that share a name. Each of the changes
keeps a book in order and lets it only grow, so a run of them does. Main statement: the order,
growth and contents of a book that is made from the empty one.
-/

namespace SchemaBook

/-- A change that a caller makes to a book. -/
inductive BookStep where
  | take (name : Text)
  | add (m : Model)
  | describe (name : Text) (m : Model)
  | draw (name : Text) (m : Model)

namespace BookStep

/-- The chapters that a change names. -/
def mentions : BookStep → List Text
  | .take name => [name]
  | .add m => m.places
  | .describe name _ => [name]
  | .draw name _ => [name]

def placements : BookStep → List Placement
  | .take _ => []
  | .add m => m.placements
  | .describe name m => [⟨name, m, true⟩]
  | .draw name m => [⟨name, m, false⟩]

theorem map_chapter_placements_subset (s : BookStep) :
    s.placements.map (·.chapter) ⊆ s.mentions := by
  cases s with
  | take name => exact List.nil_subset _
  | add m =>
    rw [placements, m.map_chapter_placements]
    exact List.Subset.refl _
  | describe name m => exact List.Subset.refl _
  | draw name m => exact List.Subset.refl _

end BookStep

namespace Book

def step (b : Book) : BookStep → Book
  | .take name => b.take name
  | .add m => b.add m
  | .describe name m => b.change name (Chapter.describe m)
  | .draw name m => b.change name (Chapter.draw m)

def run (b : Book) (steps : List BookStep) : Book := steps.foldl Book.step b

end Book

/-- A chapter in order: no name is described or drawn twice, and what is described is drawn. -/
structure Chapter.Orderly (c : Chapter) : Prop where
  nodup_described : (c.descriptions.toList.map (·.name)).Nodup
  nodup_drawn : (c.diagrams.toList.map (·.name)).Nodup
  described_subset_drawn : c.descriptions.toList.map (·.name) ⊆ c.diagrams.toList.map (·.name)

/-- A chapter that has become another one by additions at the end. -/
structure Chapter.ExtendsTo (c d : Chapter) : Prop where
  name : d.name = c.name
  descriptions : c.descriptions.toList <+: d.descriptions.toList
  diagrams : c.diagrams.toList <+: d.diagrams.toList

/-- A book in order: no two chapters of one name, and each chapter in order. -/
structure Book.Orderly (b : Book) : Prop where
  nodup_names : (b.chapters.map (·.name)).Nodup
  chapters : ∀ c ∈ b.chapters, c.Orderly

/-- A book that has become another one by additions at the end, of chapters and in chapters. -/
def Book.ExtendsTo (b d : Book) : Prop :=
  ∀ (place : Nat) (c : Chapter), b.chapters[place]? = some c →
    ∃ e, d.chapters[place]? = some e ∧ c.ExtendsTo e

namespace Chapter

theorem names_drawnOnly (c : Chapter) :
    c.drawnOnly.map (·.name) = (c.diagrams.toList.map (·.name)).filter
      (· ∉ c.descriptions.toList.map (·.name)) := by
  rw [Chapter.drawnOnly, List.filter_map]
  congr 2
  funext m
  rw [Bool.eq_iff_iff, Bool.not_eq_true', ← Bool.not_eq_true, OrderedSet.contains_iff]
  exact decide_eq_true_iff.symm

theorem orderly_empty (name : Text) : (Chapter.empty name).Orderly :=
  ⟨List.nodup_nil, List.nodup_nil, List.Subset.refl _⟩

theorem Orderly.draw {c : Chapter} (h : c.Orderly) (m : Model) : (c.draw m).Orderly where
  nodup_described := h.nodup_described
  nodup_drawn := OrderedSet.nodup_insert m h.nodup_drawn
  described_subset_drawn := by
    intro name hname
    exact (OrderedSet.mem_keys_insert _ _ _).2 (.inl (h.described_subset_drawn hname))

theorem Orderly.describe {c : Chapter} (h : c.Orderly) (m : Model) : (c.describe m).Orderly where
  nodup_described := OrderedSet.nodup_insert m h.nodup_described
  nodup_drawn := OrderedSet.nodup_insert m h.nodup_drawn
  described_subset_drawn := by
    intro name hname
    refine (OrderedSet.mem_keys_insert _ _ _).2 ?_
    exact ((OrderedSet.mem_keys_insert _ _ _).1 hname).imp_left fun hold =>
      h.described_subset_drawn hold

theorem Orderly.enter {c : Chapter} (h : c.Orderly) (p : Placement) : (p.enter c).Orderly := by
  unfold Placement.enter
  split
  · exact h.describe p.model
  · exact h.draw p.model

theorem ExtendsTo.refl (c : Chapter) : c.ExtendsTo c :=
  ⟨rfl, List.prefix_refl _, List.prefix_refl _⟩

theorem ExtendsTo.trans {c d e : Chapter} (hcd : c.ExtendsTo d) (hde : d.ExtendsTo e) :
    c.ExtendsTo e :=
  ⟨hde.name.trans hcd.name, hcd.descriptions.trans hde.descriptions,
    hcd.diagrams.trans hde.diagrams⟩

theorem extendsTo_enter (p : Placement) (c : Chapter) : c.ExtendsTo (p.enter c) := by
  unfold Placement.enter
  split
  · exact ⟨rfl, OrderedSet.prefix_insert _ _, OrderedSet.prefix_insert _ _⟩
  · exact ⟨rfl, List.prefix_refl _, OrderedSet.prefix_insert _ _⟩

end Chapter

namespace Book

theorem orderly_empty : Book.empty.Orderly := ⟨List.nodup_nil, fun _ hc => nomatch hc⟩

theorem Orderly.take {b : Book} (h : b.Orderly) (name : Text) : (b.take name).Orderly := by
  unfold Book.take
  split
  · exact h
  · next hnone =>
    rw [find?_isSome] at hnone
    constructor
    · rw [List.map_append]
      exact List.nodup_append'.2 ⟨h.nodup_names, List.nodup_singleton _,
        List.disjoint_singleton.2 hnone⟩
    · intro c hc
      rcases List.mem_append.1 hc with hold | hnew
      · exact h.chapters c hold
      · rw [List.mem_singleton.1 hnew]
        exact Chapter.orderly_empty name

theorem Orderly.place {b : Book} (h : b.Orderly) (p : Placement) : (b.place p).Orderly := by
  have htaken := h.take p.chapter
  constructor
  · have hnames : (b.place p).chapters.map (·.name) =
        (b.take p.chapter).chapters.map (·.name) := by
      rw [Book.place, Book.change, List.map_map]
      refine List.map_congr_left fun c _ => ?_
      change (if c.name = p.chapter then p.enter c else c).name = c.name
      split
      · exact (Chapter.extendsTo_enter p c).name
      · rfl
    rw [hnames]
    exact htaken.nodup_names
  · intro e he
    obtain ⟨c, hc, rfl⟩ := List.mem_map.1 he
    split
    · exact (htaken.chapters c hc).enter p
    · exact htaken.chapters c hc

theorem ExtendsTo.refl (b : Book) : b.ExtendsTo b := fun _ c hc => ⟨c, hc, .refl c⟩

theorem ExtendsTo.trans {b d e : Book} (hbd : b.ExtendsTo d) (hde : d.ExtendsTo e) :
    b.ExtendsTo e := by
  intro place c hc
  obtain ⟨mid, hmid, hfirst⟩ := hbd place c hc
  obtain ⟨last, hlast, hsecond⟩ := hde place mid hmid
  exact ⟨last, hlast, hfirst.trans hsecond⟩

theorem extendsTo_take (b : Book) (name : Text) : b.ExtendsTo (b.take name) := by
  unfold Book.take
  split
  · exact .refl b
  · intro place c hc
    have hplace := (List.getElem?_eq_some_iff.1 hc).1
    exact ⟨c, (List.getElem?_append_left hplace).trans hc, .refl c⟩

theorem extendsTo_place (b : Book) (p : Placement) : b.ExtendsTo (b.place p) := by
  refine (b.extendsTo_take p.chapter).trans ?_
  intro place c hc
  refine ⟨if c.name = p.chapter then p.enter c else c, ?_, ?_⟩
  · rw [Book.place, Book.change, List.getElem?_map, hc]
    rfl
  · split
    · exact Chapter.extendsTo_enter p c
    · exact .refl c

/-- Every change but the bare naming of a chapter is a run of placements. -/
theorem step_eq (b : Book) (s : BookStep) :
    (∃ name, s = .take name ∧ b.step s = b.take name) ∨
      s.mentions = s.placements.map (·.chapter) ∧ b.step s = s.placements.foldl Book.place b := by
  cases s with
  | take name => exact .inl ⟨name, rfl, rfl⟩
  | add m => exact .inr ⟨m.map_chapter_placements.symm, b.add_eq_foldl_place m⟩
  | describe name m => exact .inr ⟨rfl, rfl⟩
  | draw name m => exact .inr ⟨rfl, rfl⟩

theorem Orderly.step {b : Book} (h : b.Orderly) (s : BookStep) : (b.step s).Orderly := by
  obtain ⟨name, -, hstep⟩ | ⟨-, hstep⟩ := b.step_eq s
  · rw [hstep]
    exact h.take name
  · rw [hstep]
    exact List.foldlRecOn s.placements Book.place h fun d hd p _ => hd.place p

theorem extendsTo_step (b : Book) (s : BookStep) : b.ExtendsTo (b.step s) := by
  obtain ⟨name, -, hstep⟩ | ⟨-, hstep⟩ := b.step_eq s
  · rw [hstep]
    exact b.extendsTo_take name
  · rw [hstep]
    exact List.foldlRecOn s.placements Book.place (.refl b) fun d hd p _ =>
      hd.trans (d.extendsTo_place p)

theorem Orderly.run {b : Book} (h : b.Orderly) (steps : List BookStep) : (b.run steps).Orderly := by
  induction steps generalizing b with
  | nil => exact h
  | cons s rest ih => exact ih (h.step s)

/-- However long a run of changes, every chapter stays in its place with all that it holds. -/
theorem extendsTo_run (b : Book) (steps : List BookStep) : b.ExtendsTo (b.run steps) := by
  induction steps generalizing b with
  | nil => exact .refl b
  | cons s rest ih => exact (b.extendsTo_step s).trans (ih (b.step s))

section Filled

variable {names : List Text} {run : List Placement}

theorem step_filled (hrun : run.map (·.chapter) ⊆ names) (s : BookStep) :
    (Book.filled names run).step s =
      Book.filled (names ++ s.mentions) (run ++ s.placements) := by
  obtain ⟨name, rfl, hstep⟩ | ⟨hmentions, hstep⟩ := (Book.filled names run).step_eq s
  · rw [hstep, take_filled hrun]
    exact congrArg (Book.filled _) (List.append_nil run).symm
  · rw [hstep, foldl_place_filled hrun, hmentions]

theorem run_filled (hrun : run.map (·.chapter) ⊆ names) (steps : List BookStep) :
    (Book.filled names run).run steps =
      Book.filled (names ++ steps.flatMap (·.mentions)) (run ++ steps.flatMap (·.placements)) := by
  induction steps generalizing names run with
  | nil => simp [Book.run]
  | cons s rest ih =>
    have hnext : (run ++ s.placements).map (·.chapter) ⊆ names ++ s.mentions := by
      rw [List.map_append, List.append_subset]
      exact ⟨List.Subset.trans hrun (List.subset_append_left _ _),
        List.Subset.trans s.map_chapter_placements_subset (List.subset_append_right _ _)⟩
    rw [List.flatMap_cons, List.flatMap_cons, ← List.append_assoc, ← List.append_assoc, ← ih hnext,
      ← step_filled hrun]
    rfl

end Filled

theorem run_empty (steps : List BookStep) :
    Book.empty.run steps =
      Book.filled (steps.flatMap (·.mentions)) (steps.flatMap (·.placements)) := by
  have hnone : ([] : List Placement).map (·.chapter) ⊆ [] := List.Subset.refl _
  exact run_filled hnone steps

theorem Orderly.find? {b : Book} (h : b.Orderly) {c : Chapter} (hc : c ∈ b.chapters) :
    b.find? c.name = some c := by
  have hfound := OrderedSet.find?_key_of_mem h.nodup_names hc
  simpa only [Book.find?, beq_eq_decide] using hfound

end Book

/-- A book that is made from the empty one by any sequence of changes. It is in order, and each of
its chapters is the one found under its name. A chapter only draws the models that it draws and does
not describe. Whatever changes come next, one or more, only add at the ends. The chapters are those
that the changes mention, in the order of first mention, each with the first record of every name
that the changes put there. -/
theorem Book.run_orderly_and_growing (steps : List BookStep) :
    (Book.empty.run steps).Orderly ∧
      (∀ c ∈ (Book.empty.run steps).chapters, (Book.empty.run steps).find? c.name = some c ∧
        c.drawnOnly.map (·.name) = (c.diagrams.toList.map (·.name)).filter
          (· ∉ c.descriptions.toList.map (·.name))) ∧
      (∀ more, (Book.empty.run steps).ExtendsTo (Book.empty.run (steps ++ more))) ∧
      (Book.empty.run steps).chapters.map (·.name) =
        (steps.flatMap (·.mentions)).eraseDups ∧
      ∀ c ∈ (Book.empty.run steps).chapters,
        c.diagrams.toList = firstOfEachName
            (((steps.flatMap (·.placements)).filter (·.chapter = c.name)).map (·.model)) ∧
          c.descriptions.toList = firstOfEachName
            (((steps.flatMap (·.placements)).filter
              fun p => p.chapter = c.name ∧ p.described).map (·.model)) := by
  have horderly := Book.orderly_empty.run steps
  refine ⟨horderly, fun c hc => ⟨horderly.find? hc, c.names_drawnOnly⟩, ?_, ?_, ?_⟩
  · intro more
    rw [Book.run, Book.run, List.foldl_append]
    exact Book.extendsTo_run _ more
  · rw [Book.run_empty, Book.names_filled, firstOccurrences_eq_eraseDups]
  · intro c hc
    rw [Book.run_empty] at hc
    obtain ⟨name, -, rfl⟩ := List.mem_map.1 hc
    simp [Chapter.after, OrderedSet.toList_ofList, firstOfEachName, beq_eq_decide]

end SchemaBook
