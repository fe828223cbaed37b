/-!
Sets that keep the order of insertion, with elements told apart by a key: of two elements with one
key the first stays. Main statements: what an insertion does to the list of elements and of keys,
what a run of insertions finds for a key and which elements it appends, and that the keys of a set
that is built from a list are the first occurrences of the list's keys.
-/

namespace SchemaBook

/-- The elements in the order in which their keys were first inserted. -/
structure OrderedSet {α κ : Type} (key : α → κ) where
  toList : List α

namespace OrderedSet

variable {α κ : Type} [DecidableEq κ] {key : α → κ}

def empty (key : α → κ) : OrderedSet key := ⟨[]⟩

def find? (s : OrderedSet key) (k : κ) : Option α := s.toList.find? fun a => key a = k

/-- Whether an element has the key. -/
def contains (s : OrderedSet key) (k : κ) : Bool := (s.find? k).isSome

def insert (s : OrderedSet key) (a : α) : OrderedSet key :=
  if s.contains (key a) then s else ⟨s.toList ++ [a]⟩

/-- The set of the elements of a list, the first of each key. -/
def ofList (key : α → κ) (xs : List α) : OrderedSet key := xs.foldl insert (empty key)

def size (s : OrderedSet key) : Nat := s.toList.length

def isEmpty (s : OrderedSet key) : Bool := s.toList.isEmpty

theorem contains_iff (s : OrderedSet key) (k : κ) :
    s.contains k = true ↔ k ∈ s.toList.map key := by
  simp [contains, find?, List.find?_isSome]

theorem toList_insert_of_mem {s : OrderedSet key} {a : α} (h : key a ∈ s.toList.map key) :
    (s.insert a).toList = s.toList := by
  rw [insert, if_pos ((contains_iff s _).2 h)]

theorem toList_insert_of_notMem {s : OrderedSet key} {a : α} (h : key a ∉ s.toList.map key) :
    (s.insert a).toList = s.toList ++ [a] := by
  rw [insert, if_neg (by rwa [contains_iff])]

theorem nodup_insert {s : OrderedSet key} (a : α) (h : (s.toList.map key).Nodup) :
    ((s.insert a).toList.map key).Nodup := by
  by_cases hm : key a ∈ s.toList.map key
  · rwa [toList_insert_of_mem hm]
  · rw [toList_insert_of_notMem hm, List.map_append, List.nodup_append]
    refine ⟨h, by simp, ?_⟩
    intro x hx y hy hxy
    simp only [List.map_cons, List.map_nil, List.mem_singleton] at hy
    exact hm (hy ▸ hxy ▸ hx)

theorem find?_insert (s : OrderedSet key) (a : α) (k : κ) :
    (s.insert a).find? k = (s.find? k).or (if key a = k then some a else none) := by
  by_cases hm : key a ∈ s.toList.map key
  · simp only [find?, toList_insert_of_mem hm]
    by_cases hk : key a = k
    · have hsome : (s.find? k).isSome := (contains_iff s k).2 (hk ▸ hm)
      obtain ⟨b, hb⟩ := Option.isSome_iff_exists.1 hsome
      simp only [find?] at hb
      rw [hb, Option.some_or]
    · simp [hk]
  · simp only [find?, toList_insert_of_notMem hm, List.find?_append]
    by_cases hk : key a = k <;> simp [hk]

theorem contains_insert [BEq κ] [LawfulBEq κ] (s : OrderedSet key) (a : α) (k : κ) :
    (s.insert a).contains k = (s.contains k || key a == k) := by
  rw [contains, find?_insert, contains]
  cases s.find? k with
  | some b => rfl
  | none => by_cases hk : key a = k <;> simp [hk]

theorem mem_keys_insert (s : OrderedSet key) (a : α) (k : κ) :
    k ∈ (s.insert a).toList.map key ↔ k ∈ s.toList.map key ∨ key a = k := by
  rw [← contains_iff, contains_insert, Bool.or_eq_true, contains_iff, beq_iff_eq]

/-- An insertion leaves the elements that are there as and where they are. -/
theorem prefix_insert (s : OrderedSet key) (a : α) : s.toList <+: (s.insert a).toList := by
  by_cases hm : key a ∈ s.toList.map key
  · exact ⟨[], by rw [toList_insert_of_mem hm, List.append_nil]⟩
  · exact ⟨[a], (toList_insert_of_notMem hm).symm⟩

/-- After a run of insertions a key leads to what it led to before, else to the first element of
the run that has it. -/
theorem find?_foldl_insert (s : OrderedSet key) (xs : List α) (k : κ) :
    (xs.foldl insert s).find? k = (s.find? k).or (xs.find? fun a => key a = k) := by
  induction xs generalizing s with
  | nil => simp
  | cons a rest ih =>
    rw [List.foldl_cons, ih, find?_insert, Option.or_assoc, List.find?_cons]
    by_cases hk : key a = k <;> simp [hk]

theorem nodup_foldl_insert {s : OrderedSet key} (xs : List α) (h : (s.toList.map key).Nodup) :
    ((xs.foldl insert s).toList.map key).Nodup := by
  induction xs generalizing s with
  | nil => exact h
  | cons a rest ih => exact ih (nodup_insert a h)

theorem mem_of_mem_foldl_insert {s : OrderedSet key} {xs : List α} {a : α}
    (h : a ∈ (xs.foldl insert s).toList) : a ∈ s.toList ∨ a ∈ xs := by
  induction xs generalizing s with
  | nil => exact .inl h
  | cons b rest ih =>
    rcases ih h with hs | hrest
    · by_cases hm : key b ∈ s.toList.map key
      · rw [toList_insert_of_mem hm] at hs
        exact .inl hs
      · rw [toList_insert_of_notMem hm, List.mem_append, List.mem_singleton] at hs
        rcases hs with hs | rfl
        · exact .inl hs
        · exact .inr List.mem_cons_self
    · exact .inr (List.mem_cons_of_mem b hrest)

/-- A run of insertions appends the elements whose keys were missing, the first of each key. -/
theorem toList_foldl_insert [BEq κ] [LawfulBEq κ] (s : OrderedSet key) (xs : List α) :
    (xs.foldl insert s).toList = s.toList ++
      (xs.filter fun a => !s.contains (key a)).eraseDupsBy fun a b => key a == key b := by
  induction xs generalizing s with
  | nil => simp
  | cons a rest ih =>
    rw [List.foldl_cons, ih]
    by_cases hm : s.contains (key a) = true
    · rw [insert, if_pos hm, List.filter_cons_of_neg (by simp [hm])]
    · have hrest : (rest.filter fun b => !(s.insert a).contains (key b)) =
          (rest.filter fun b => !s.contains (key b)).filter fun b => (key b == key a) = false := by
        rw [List.filter_filter]
        congr 1
        funext b
        rw [contains_insert, Bool.not_or, Bool.and_comm, BEq.comm, Bool.decide_eq_false]
      rw [hrest, List.filter_cons_of_pos (by simpa using hm), List.eraseDupsBy_cons, insert,
        if_neg hm, List.append_assoc, List.singleton_append]

theorem toList_ofList [BEq κ] [LawfulBEq κ] (key : α → κ) (xs : List α) :
    (ofList key xs).toList = xs.eraseDupsBy fun a b => key a == key b := by
  have hall : (xs.filter fun a => !(empty key).contains (key a)) = xs :=
    List.filter_eq_self.2 fun _ _ => rfl
  rw [ofList, toList_foldl_insert, hall]
  rfl

/-- Elements with distinct keys are a set as they stand. -/
theorem toList_ofList_of_nodup {xs : List α} (h : (xs.map key).Nodup) :
    (ofList key xs).toList = xs := by
  rw [toList_ofList]
  induction xs with
  | nil => rfl
  | cons a rest ih =>
    obtain ⟨hfirst, hrest⟩ := List.nodup_cons.1 h
    have hkept : rest.filter (fun b => (key b == key a) = false) = rest := by
      refine List.filter_eq_self.2 ?_
      intro b hb
      have hne : key b ≠ key a := fun heq => hfirst (heq ▸ List.mem_map_of_mem hb)
      simpa using hne
    rw [List.eraseDupsBy_cons, hkept, ih hrest]

theorem ofList_concat (key : α → κ) (xs : List α) (a : α) :
    ofList key (xs ++ [a]) = (ofList key xs).insert a := by
  rw [ofList, List.foldl_append]
  rfl

/-- To insert an element a number of times is to insert it once. -/
theorem foldl_insert_of_forall_eq {s : OrderedSet key} {xs : List α} {a : α}
    (h : ∀ b ∈ xs, b = a) : xs.foldl insert s = if xs.isEmpty then s else s.insert a := by
  induction xs generalizing s with
  | nil => rfl
  | cons b rest ih =>
    obtain rfl := h b List.mem_cons_self
    have hagain : (s.insert b).insert b = s.insert b := by
      have hmem : (s.insert b).contains (key b) = true := by simp [contains_insert]
      rw [insert, if_pos hmem]
    rw [List.foldl_cons, ih fun c hc => h c (List.mem_cons_of_mem b hc)]
    cases rest with
    | nil => rfl
    | cons c rest => simp [hagain]

/-- Where every element stands a number of times, the set is that of the elements that stand there
at least once. -/
theorem ofList_flatMap {f : α → List α} {xs : List α} (h : ∀ a ∈ xs, ∀ b ∈ f a, b = a) :
    ofList key (xs.flatMap f) = ofList key (xs.filter fun a => !(f a).isEmpty) := by
  have hrun : ∀ s : OrderedSet key, (xs.flatMap f).foldl insert s =
      (xs.filter fun a => !(f a).isEmpty).foldl insert s := by
    induction xs with
    | nil => intro s; rfl
    | cons a rest ih =>
      intro s
      have ha := h a List.mem_cons_self
      have hrest := ih fun b hb => h b (List.mem_cons_of_mem a hb)
      rw [List.flatMap_cons, List.foldl_append, foldl_insert_of_forall_eq ha, hrest]
      by_cases hnil : (f a).isEmpty = true
      · rw [if_pos hnil, List.filter_cons_of_neg (by simp [hnil])]
      · rw [if_neg hnil, List.filter_cons_of_pos (by simpa using hnil), List.foldl_cons]
  exact hrun (empty key)

theorem find?_ofList (key : α → κ) (xs : List α) (k : κ) :
    (ofList key xs).find? k = xs.find? fun a => key a = k := by
  rw [ofList, find?_foldl_insert]
  rfl

theorem nodup_ofList (xs : List α) : ((ofList key xs).toList.map key).Nodup :=
  nodup_foldl_insert xs List.nodup_nil

theorem mem_of_mem_ofList {xs : List α} {a : α} (h : a ∈ (ofList key xs).toList) : a ∈ xs :=
  (mem_of_mem_foldl_insert h).resolve_left List.not_mem_nil

/-- In a list with distinct keys every element is the first of its key. -/
theorem find?_key_of_mem {xs : List α} (hkeys : (xs.map key).Nodup) {a : α} (h : a ∈ xs) :
    xs.find? (fun b => key b = key a) = some a := by
  induction xs with
  | nil => cases h
  | cons b rest ih =>
    obtain ⟨hfirst, hrest⟩ := List.nodup_cons.1 hkeys
    rcases List.mem_cons.1 h with rfl | hmem
    · simp
    · have hne : key b ≠ key a := fun heq => hfirst (heq ▸ List.mem_map_of_mem hmem)
      rw [List.find?_cons_of_neg (by simpa using hne), ih hrest hmem]

/-- In a list with distinct keys an element is alone with its key. -/
theorem filter_key_of_mem {xs : List α} (hkeys : (xs.map key).Nodup) {a : α} (h : a ∈ xs) :
    xs.filter (fun b => key b = key a) = [a] := by
  induction xs with
  | nil => cases h
  | cons b rest ih =>
    obtain ⟨hfirst, hrest⟩ := List.nodup_cons.1 hkeys
    rcases List.mem_cons.1 h with rfl | hmem
    · have hnone : rest.filter (fun b => key b = key a) = [] := by
        refine List.filter_eq_nil_iff.2 ?_
        intro c hc heq
        exact hfirst (List.mem_map.2 ⟨c, hc, of_decide_eq_true heq⟩)
      rw [List.filter_cons_of_pos (by simp), hnone]
    · have hne : key b ≠ key a := fun heq => hfirst (heq ▸ List.mem_map_of_mem hmem)
      rw [List.filter_cons_of_neg (by simpa using hne), ih hrest hmem]

theorem mem_keys_ofList (key : α → κ) (xs : List α) (k : κ) :
    k ∈ (ofList key xs).toList.map key ↔ k ∈ xs.map key := by
  rw [← contains_iff, contains, find?_ofList]
  simp [List.find?_isSome]

/-- The keys of a run of insertions are those of the run over the keys alone. -/
theorem keys_foldl_insert (s : OrderedSet key) (xs : List α) :
    (xs.foldl insert s).toList.map key =
      ((xs.map key).foldl insert (⟨s.toList.map key⟩ : OrderedSet id)).toList := by
  induction xs generalizing s with
  | nil => rfl
  | cons a rest ih =>
    have hstep : (⟨(s.insert a).toList.map key⟩ : OrderedSet id) =
        (⟨s.toList.map key⟩ : OrderedSet id).insert (key a) := by
      by_cases hm : key a ∈ s.toList.map key
      · rw [toList_insert_of_mem hm, insert, if_pos ((contains_iff _ _).2 (by simpa using hm))]
      · rw [toList_insert_of_notMem hm, insert, if_neg (by rw [contains_iff]; simpa using hm),
          List.map_append, List.map_singleton]
    rw [List.foldl_cons, ih, hstep]
    rfl

end OrderedSet

def firstOccurrences {κ : Type} [DecidableEq κ] (xs : List κ) : List κ :=
  (OrderedSet.ofList id xs).toList

theorem mem_firstOccurrences {κ : Type} [DecidableEq κ] {xs : List κ} {k : κ} :
    k ∈ firstOccurrences xs ↔ k ∈ xs := by
  have hkeys := OrderedSet.mem_keys_ofList (id : κ → κ) xs k
  rwa [List.map_id, List.map_id] at hkeys

theorem nodup_firstOccurrences {κ : Type} [DecidableEq κ] (xs : List κ) :
    (firstOccurrences xs).Nodup := by
  have hkeys : ((OrderedSet.ofList id xs).toList.map id).Nodup := OrderedSet.nodup_ofList xs
  rwa [List.map_id] at hkeys

/-- A list without repetitions is its own list of first occurrences. -/
theorem firstOccurrences_of_nodup {κ : Type} [DecidableEq κ] {xs : List κ} (h : xs.Nodup) :
    firstOccurrences xs = xs :=
  OrderedSet.toList_ofList_of_nodup (by rwa [List.map_id])

theorem firstOccurrences_eq_eraseDups {κ : Type} [DecidableEq κ] [BEq κ] [LawfulBEq κ]
    (xs : List κ) : firstOccurrences xs = xs.eraseDups :=
  OrderedSet.toList_ofList id xs

theorem firstOccurrences_concat {κ : Type} [DecidableEq κ] (xs : List κ) (k : κ) :
    firstOccurrences (xs ++ [k]) =
      if k ∈ xs then firstOccurrences xs else firstOccurrences xs ++ [k] := by
  have hkeys : k ∈ (OrderedSet.ofList id xs).toList.map id ↔ k ∈ xs := by
    rw [OrderedSet.mem_keys_ofList, List.map_id]
  rw [firstOccurrences, OrderedSet.ofList_concat]
  by_cases hk : k ∈ xs
  · rw [if_pos hk, OrderedSet.toList_insert_of_mem (hkeys.2 hk), firstOccurrences]
  · rw [if_neg hk, OrderedSet.toList_insert_of_notMem (mt hkeys.1 hk), firstOccurrences]

/-- The keys of a set that is built from a list are the first occurrences of the list's keys. -/
theorem OrderedSet.keys_ofList {α κ : Type} [DecidableEq κ] (key : α → κ) (xs : List α) :
    (OrderedSet.ofList key xs).toList.map key = firstOccurrences (xs.map key) :=
  OrderedSet.keys_foldl_insert (OrderedSet.empty key) xs

end SchemaBook
