import SchemaBook.Proofs.Value.Names

/-!
When the data of a model can be read. What has the wrong shape counts as absent, so few things are
left that can be refused: a model or field without a name, fields that are no list, unique indexes
without items to look at, and an integer that has to become a text and is too long for one. Main
statement: reading gives a model exactly where none of these is found, every fault names one of
them, and of mappings without long integers only unique indexes without items are refused against
the rule that malformed data is left out.
-/

namespace SchemaBook

open Value

theorem exists_entryName_ok_iff {noun : EntryNoun} {raw : Value} :
    (∃ name, entryName noun raw = .ok name) ↔ IsName (raw.get? "name") := by
  rw [isName_iff]
  unfold entryName
  split
  · next name hname => simp [hname]
  · next hnone =>
    rw [hnone]
    split <;> simp

theorem of_entryName_eq_error {noun : EntryNoun} {raw : Value} {fault : SchemaFault}
    (h : entryName noun raw = .error fault) :
    ¬IsName (raw.get? "name") ∧
      (fault = .missingName noun raw ∨ fault = .integerTooLong ∧ raw.HoldsLong) := by
  unfold entryName at h
  split at h
  · cases h
  · next hnone =>
    refine ⟨text?_eq_none_iff.1 hnone, ?_⟩
    split at h
    · cases h
      exact .inl rfl
    · next hshown =>
      cases h
      exact .inr ⟨rfl, holdsLong_of_shownInside? hshown⟩

theorem text?_of_entryName {noun : EntryNoun} {raw : Value} {name : Text}
    (h : entryName noun raw = .ok name) : text? (raw.get? "name") = some name := by
  unfold entryName at h
  split at h
  · next other hother => rw [hother, Except.ok.inj h]
  · split at h <;> cases h

/-- The names and words of a field can be written as texts. -/
structure FieldHasText (raw : Value) : Prop where
  type : WordHasText (raw.get? "type")
  kind : WordHasText (raw.get? "kind")
  params : ParamsHaveText (raw.get? "nativeType")
  localColumns : NamesHaveText (raw.get? "relationFromFields")
  foreignColumns : NamesHaveText (raw.get? "relationToFields")

theorem exists_field_ofMapping_ok_iff {raw : Value} :
    (∃ f, Field.ofMapping raw = .ok f) ↔ IsName (raw.get? "name") ∧ FieldHasText raw := by
  unfold Field.ofMapping
  simp only [exists_bind_ok_iff]
  constructor
  · rintro ⟨name, hname, type, htype, kind, hkind, native, hnative, columns, hlocal, others,
      hforeign, -⟩
    exact ⟨exists_entryName_ok_iff.1 ⟨name, hname⟩, exists_wordOr_ok_iff.1 ⟨type, htype⟩,
      exists_wordOr_ok_iff.1 ⟨kind, hkind⟩, exists_nativeType_ok_iff.1 ⟨native, hnative⟩,
      exists_names_ok_iff.1 ⟨columns, hlocal⟩, exists_names_ok_iff.1 ⟨others, hforeign⟩⟩
  · rintro ⟨hnamed, h⟩
    obtain ⟨name, hname⟩ : ∃ name, entryName .field raw = .ok name :=
      exists_entryName_ok_iff.2 hnamed
    obtain ⟨type, htype⟩ : ∃ type, wordOr [] (raw.get? "type") = .ok type :=
      exists_wordOr_ok_iff.2 h.type
    obtain ⟨kind, hkind⟩ : ∃ kind, wordOr "scalar" (raw.get? "kind") = .ok kind :=
      exists_wordOr_ok_iff.2 h.kind
    obtain ⟨native, hnative⟩ := exists_nativeType_ok_iff.2 h.params
    obtain ⟨columns, hlocal⟩ := exists_names_ok_iff.2 h.localColumns
    obtain ⟨others, hforeign⟩ := exists_names_ok_iff.2 h.foreignColumns
    exact ⟨name, hname, type, htype, kind, hkind, native, hnative, columns, hlocal, others,
      hforeign, _, rfl⟩

theorem Value.IsLongIn.of_get? {raw : Value} {key : Text} {fault : SchemaFault}
    (h : IsLongIn fault (raw.get? key)) : fault = .integerTooLong ∧ raw.HoldsLong := by
  obtain ⟨hfault, w, hw, hlong⟩ := h
  exact ⟨hfault, hlong.of_get? hw⟩

theorem of_field_ofMapping_eq_error {raw : Value} {fault : SchemaFault}
    (h : Field.ofMapping raw = .error fault) :
    ¬IsName (raw.get? "name") ∧ fault = .missingName .field raw ∨
      fault = .integerTooLong ∧ raw.HoldsLong := by
  unfold Field.ofMapping at h
  simp only [bind_eq_error_iff] at h
  rcases h with hname | ⟨_, _, htype | ⟨_, _, hkind | ⟨_, _, hnative | ⟨_, _, hlocal |
    ⟨_, _, hforeign | ⟨_, _, hdone⟩⟩⟩⟩⟩⟩
  · obtain ⟨hnone, hfault | hlong⟩ := of_entryName_eq_error hname
    · exact .inl ⟨hnone, hfault⟩
    · exact .inr hlong
  · exact .inr (of_wordOr_eq_error htype).of_get?
  · exact .inr (of_wordOr_eq_error hkind).of_get?
  · exact .inr (of_nativeType_eq_error hnative).of_get?
  · exact .inr (of_names_eq_error hlocal).of_get?
  · exact .inr (of_names_eq_error hforeign).of_get?
  · cases hdone

/-- The value that the members of a compound key are read from. -/
def keyMembers (v : Option Value) : Option Value :=
  match v.bind entries? with
  | some entries => Entries.get? entries "fields"
  | none => v

theorem primaryKeyOf_eq (v : Option Value) : primaryKeyOf v = names (keyMembers v) := by
  unfold primaryKeyOf keyMembers
  cases v.bind entries? <;> rfl

theorem of_primaryKeyOf_eq_error {v : Option Value} {fault : SchemaFault}
    (h : primaryKeyOf v = .error fault) : IsLongIn fault v := by
  rw [primaryKeyOf_eq] at h
  obtain ⟨hfault, w, hw, hlong⟩ := of_names_eq_error h
  unfold keyMembers at hw
  split at hw
  · next entries hentries =>
    obtain ⟨whole, rfl, hwhole⟩ := Option.bind_eq_some_iff.1 hentries
    obtain ⟨entry, hentry, rfl⟩ := Option.map_eq_some_iff.1 hw
    exact ⟨hfault, whole, rfl, hlong.of_entries? hwhole (List.mem_of_find?_eq_some hentry)⟩
  · exact ⟨hfault, w, hw, hlong⟩

/-- Of the unique indexes that hold names the integers can be written as names. -/
def IndexesHaveText (v : Option Value) : Prop :=
  ∀ items, v.bind sequence? = some items → ∀ item ∈ items, NamesHaveText (some item)

/-- What has items to look at and is no list means no indexes, so only lists can lack a text. -/
theorem exists_uniqueIndexesOf_ok_iff {v : Option Value} :
    (∃ indexes, uniqueIndexesOf v = .ok indexes) ↔
      (∀ w, v = some w → w.IsIterable) ∧ IndexesHaveText v := by
  cases v with
  | none => exact ⟨fun _ => ⟨fun _ => nofun, fun _ => nofun⟩, fun _ => ⟨[], rfl⟩⟩
  | some w =>
    have hiterable : (∀ other, some w = some other → other.IsIterable) ↔ w.IsIterable :=
      ⟨fun h => h w rfl, fun h _ heq => Option.some.inj heq ▸ h⟩
    have hindexes : IndexesHaveText (some w) ↔
        ∃ indexes, ((w.sequence?.getD []).mapM fun item => names (some item)) = .ok indexes := by
      rw [exists_mapM_ok_iff, IndexesHaveText, Option.bind_some]
      simp only [exists_names_ok_iff]
      cases w.sequence? <;> simp
    rw [hiterable, hindexes, uniqueIndexesOf, ← hasItems_eq_true_iff]
    split
    case isTrue hitems =>
      rw [exists_bind_ok_iff]
      constructor
      · rintro ⟨indexes, hread, -⟩
        exact ⟨hitems, indexes, hread⟩
      · rintro ⟨-, indexes, hread⟩
        exact ⟨indexes, hread, _, rfl⟩
    case isFalse hitems => simp [hitems]

/-- The kind by which a fault tells what has no items to look at. -/
def itemlessKind (w : Value) : String := w.exposed.fullKindName

theorem of_uniqueIndexesOf_eq_error {v : Option Value} {fault : SchemaFault}
    (h : uniqueIndexesOf v = .error fault) :
    (∃ w, v = some w ∧ ¬w.IsIterable ∧ fault = .indexesNotIterable (itemlessKind w)) ∨
      IsLongIn fault v := by
  cases v with
  | none => cases h
  | some w =>
    rw [uniqueIndexesOf, ← itemlessKind] at h
    split at h
    case isTrue =>
      rcases bind_eq_error_iff.1 h with hitems | ⟨indexes, -, hdone⟩
      · obtain ⟨item, hitem, hnames⟩ := exists_of_mapM_eq_error hitems
        obtain ⟨hfault, named, hnamed, hlong⟩ := of_names_eq_error hnames
        obtain rfl := Option.some.inj hnamed
        cases hsequence : w.sequence? with
        | none => rw [hsequence] at hitem; cases hitem
        | some items =>
          rw [hsequence] at hitem
          exact .inr ⟨hfault, w, rfl, hlong.of_sequence? hsequence hitem⟩
      · cases hdone
    case isFalse hitems =>
      cases h
      exact .inl ⟨w, rfl, mt hasItems_eq_true_iff.2 hitems, rfl⟩

/-- The items under the fields of a model. -/
def fieldItems (raw : Value) : List Value := ((raw.given "fields").bind items?).getD []

/-- The fields of a model are a list, if they are given. -/
def HasFieldList (raw : Value) : Prop := ∀ v, raw.given "fields" = some v → v.items?.isSome = true

/-- What nothing can be left out of: a model has a name, its fields, if given, are a list, and every
mapping in it has a name. -/
structure IsWellShaped (raw : Value) : Prop where
  name : IsName (raw.get? "name")
  fieldList : HasFieldList raw
  fieldNames : ∀ item ∈ mappings (fieldItems raw), IsName (item.get? "name")

/-- The unique indexes, if given, have items to look at. -/
def HasIterableIndexes (raw : Value) : Prop :=
  ∀ w, raw.given "uniqueFields" = some w → w.IsIterable

/-- The names and words of a model and its fields can be written as texts. -/
structure ModelHasText (raw : Value) : Prop where
  fields : ∀ item ∈ mappings (fieldItems raw), FieldHasText item
  primaryKey : NamesHaveText (keyMembers (raw.get? "primaryKey"))
  uniqueIndexes : IndexesHaveText (raw.given "uniqueFields")

/-- A model of a name, with its fields read from the given items. -/
def modelOfItems (raw : Value) (items : List Value) (name : Text) : Except SchemaFault Model := do
  let fields ← (mappings items).mapM Field.ofMapping
  let primaryKey ← primaryKeyOf (raw.get? "primaryKey")
  let uniqueIndexes ← uniqueIndexesOf (raw.given "uniqueFields")
  return {
    name
    fields
    dbName := text? (raw.get? "dbName")
    documentation := text? (raw.get? "documentation")
    primaryKey
    uniqueIndexes
  }

theorem model_ofMapping_of_fieldList {raw : Value} (h : HasFieldList raw) :
    Model.ofMapping raw = entryName .model raw >>= modelOfItems raw (fieldItems raw) := by
  unfold Model.ofMapping fieldItems
  cases hgiven : raw.given "fields" with
  | none => rfl
  | some v =>
    obtain ⟨items, hitems⟩ := Option.isSome_iff_exists.1 (h v hgiven)
    simp only [Option.map_some, Option.bind_some, hitems]
    rfl

theorem model_ofMapping_of_not_fieldList {raw : Value} (h : ¬HasFieldList raw) :
    Model.ofMapping raw = entryName .model raw >>= fun name => .error (.fieldsNotList name) := by
  obtain ⟨v, hgiven, hitems⟩ : ∃ v, raw.given "fields" = some v ∧ v.items? = none := by
    simpa [HasFieldList] using h
  unfold Model.ofMapping
  simp only [hgiven, Option.map_some, hitems]
  rfl

theorem exists_modelOfItems_ok_iff {raw : Value} {items : List Value} {name : Text} :
    (∃ model, modelOfItems raw items name = .ok model) ↔
      (∀ item ∈ mappings items, IsName (item.get? "name") ∧ FieldHasText item) ∧
        NamesHaveText (keyMembers (raw.get? "primaryKey")) ∧ HasIterableIndexes raw ∧
          IndexesHaveText (raw.given "uniqueFields") := by
  simp only [modelOfItems, exists_bind_ok_iff, ← exists_field_ofMapping_ok_iff,
    ← exists_mapM_ok_iff, HasIterableIndexes, ← exists_uniqueIndexesOf_ok_iff,
    ← exists_names_ok_iff, ← primaryKeyOf_eq]
  constructor
  · rintro ⟨fields, hfields, key, hkey, indexes, hindexes, -⟩
    exact ⟨⟨fields, hfields⟩, ⟨key, hkey⟩, indexes, hindexes⟩
  · rintro ⟨⟨fields, hfields⟩, ⟨key, hkey⟩, indexes, hindexes⟩
    exact ⟨fields, hfields, key, hkey, indexes, hindexes, _, rfl⟩

/-- A model is read exactly when it has the right shape, its unique indexes have items to look at,
and its names and words have texts. -/
theorem exists_model_ofMapping_ok_iff {raw : Value} :
    (∃ model, Model.ofMapping raw = .ok model) ↔
      IsWellShaped raw ∧ HasIterableIndexes raw ∧ ModelHasText raw := by
  by_cases hlist : HasFieldList raw
  · rw [model_ofMapping_of_fieldList hlist, exists_bind_ok_iff]
    simp only [exists_modelOfItems_ok_iff]
    constructor
    · rintro ⟨name, hname, hfields, hkey, hiterable, hindexes⟩
      have hshaped : IsWellShaped raw :=
        ⟨exists_entryName_ok_iff.1 ⟨name, hname⟩, hlist, fun item hitem => (hfields item hitem).1⟩
      exact ⟨hshaped, hiterable, fun item hitem => (hfields item hitem).2, hkey, hindexes⟩
    · rintro ⟨hshaped, hiterable, htext⟩
      obtain ⟨name, hname⟩ : ∃ name, entryName .model raw = .ok name :=
        exists_entryName_ok_iff.2 hshaped.name
      have hfields (item : Value) (hitem : item ∈ mappings (fieldItems raw)) :
          IsName (item.get? "name") ∧ FieldHasText item :=
        ⟨hshaped.fieldNames item hitem, htext.fields item hitem⟩
      exact ⟨name, hname, hfields, htext.primaryKey, hiterable, htext.uniqueIndexes⟩
  · rw [model_ofMapping_of_not_fieldList hlist, exists_bind_ok_iff]
    constructor
    · rintro ⟨name, -, model, hmodel⟩
      cases hmodel
    · rintro ⟨hshaped, -⟩
      exact absurd hshaped.fieldList hlist

/-- What a fault of reading a model says of its data. -/
inductive IsRefusedFor (raw : Value) : SchemaFault → Prop where
  | model (h : ¬IsName (raw.get? "name")) : IsRefusedFor raw (.missingName .model raw)
  | fieldList {name : Text} (hname : raw.get? "name" = some (.text name)) (h : ¬HasFieldList raw) :
      IsRefusedFor raw (.fieldsNotList name)
  | field {item : Value} (hitem : item ∈ mappings (fieldItems raw))
      (h : ¬IsName (item.get? "name")) : IsRefusedFor raw (.missingName .field item)
  | indexes {w : Value} (hgiven : raw.given "uniqueFields" = some w) (h : ¬w.IsIterable) :
      IsRefusedFor raw (.indexesNotIterable (itemlessKind w))
  | long (h : raw.HoldsLong) : IsRefusedFor raw .integerTooLong

theorem holdsLong_of_fieldItem {raw item : Value} (hitem : item ∈ mappings (fieldItems raw))
    (h : item.HoldsLong) : raw.HoldsLong := by
  have hmem := (List.mem_filter.1 hitem).1
  unfold fieldItems at hmem
  cases hgiven : raw.given "fields" with
  | none => rw [hgiven] at hmem; cases hmem
  | some v =>
    rw [hgiven, Option.bind_some] at hmem
    cases hitems : v.items? with
    | none => rw [hitems] at hmem; cases hmem
    | some items =>
      rw [hitems] at hmem
      exact (h.of_items? hitems hmem).of_given hgiven

theorem isRefusedFor_of_long {raw : Value} {fault : SchemaFault}
    (h : fault = .integerTooLong ∧ raw.HoldsLong) : IsRefusedFor raw fault := by
  rw [h.1]
  exact .long h.2

theorem isRefusedFor_of_modelOfItems {raw : Value} {name : Text} {fault : SchemaFault}
    (h : modelOfItems raw (fieldItems raw) name = .error fault) : IsRefusedFor raw fault := by
  simp only [modelOfItems, bind_eq_error_iff] at h
  rcases h with hfields | ⟨_, _, hkey | ⟨_, _, hindexes | ⟨_, _, hdone⟩⟩⟩
  · obtain ⟨item, hitem, hfield⟩ := exists_of_mapM_eq_error hfields
    rcases of_field_ofMapping_eq_error hfield with ⟨hname, rfl⟩ | ⟨hfault, hlong⟩
    · exact .field hitem hname
    · exact isRefusedFor_of_long ⟨hfault, holdsLong_of_fieldItem hitem hlong⟩
  · exact isRefusedFor_of_long (of_primaryKeyOf_eq_error hkey).of_get?
  · rcases of_uniqueIndexesOf_eq_error hindexes with
      ⟨w, hgiven, hscalar, rfl⟩ | ⟨hfault, w, hw, hlong⟩
    · exact .indexes hgiven hscalar
    · exact isRefusedFor_of_long ⟨hfault, hlong.of_given hw⟩
  · cases hdone

/-- Every fault of reading a model names what is wrong with its data. -/
theorem isRefusedFor_of_ofMapping {raw : Value} {fault : SchemaFault}
    (h : Model.ofMapping raw = .error fault) : IsRefusedFor raw fault := by
  have hentry : entryName .model raw = .error fault → IsRefusedFor raw fault := by
    intro hname
    obtain ⟨hnone, rfl | hlong⟩ := of_entryName_eq_error hname
    · exact .model hnone
    · exact isRefusedFor_of_long hlong
  by_cases hlist : HasFieldList raw
  · rw [model_ofMapping_of_fieldList hlist, bind_eq_error_iff] at h
    rcases h with hname | ⟨name, -, hmodel⟩
    · exact hentry hname
    · exact isRefusedFor_of_modelOfItems hmodel
  · rw [model_ofMapping_of_not_fieldList hlist, bind_eq_error_iff] at h
    rcases h with hname | ⟨name, hname, hfault⟩
    · exact hentry hname
    · cases hfault
      exact .fieldList (text?_eq_some_iff.1 (text?_of_entryName hname)).1 hlist

/-- A fault of the shape of the data, and not of the length of an integer in it. -/
def SchemaFault.IsOfShape (fault : SchemaFault) : Prop := fault ≠ .integerTooLong

/-- Malformed data counts as absent: a model of the right shape is read whatever else stands in its
data, and any other is refused for its shape. -/
structure Degrades (raw : Value) : Prop where
  read : IsWellShaped raw → ∃ model, Model.ofMapping raw = .ok model
  refused : ¬IsWellShaped raw → ∃ fault, Model.ofMapping raw = .error fault ∧ fault.IsOfShape

theorem isOfShape_of_isRefusedFor {raw : Value} {fault : SchemaFault} (h : IsRefusedFor raw fault)
    (hshort : ¬raw.HoldsLong) : fault.IsOfShape := by
  cases h with
  | long hlong => exact absurd hlong hshort
  | _ => exact nofun

/-- Without long integers, what is refused has the wrong shape or unique indexes without items. -/
theorem not_isWellShaped_or_not_hasIterableIndexes {raw : Value} {fault : SchemaFault}
    (h : IsRefusedFor raw fault) (hshort : ¬raw.HoldsLong) :
    ¬IsWellShaped raw ∨ ¬HasIterableIndexes raw := by
  cases h with
  | model hname => exact .inl fun hshaped => hname hshaped.name
  | fieldList _ hlist => exact .inl fun hshaped => hlist hshaped.fieldList
  | field hitem hname => exact .inl fun hshaped => hname (hshaped.fieldNames _ hitem)
  | indexes hgiven hscalar => exact .inr fun hiterable => hscalar (hiterable _ hgiven)
  | long hlong => exact absurd hlong hshort

theorem degrades_iff_of_not_holdsLong {raw : Value} (hshort : ¬raw.HoldsLong) :
    Degrades raw ↔ (IsWellShaped raw → HasIterableIndexes raw) := by
  constructor
  · intro h hshaped
    exact (exists_model_ofMapping_ok_iff.1 (h.read hshaped)).2.1
  · intro hiterable
    cases hread : Model.ofMapping raw with
    | ok model =>
      have hshaped := (exists_model_ofMapping_ok_iff.1 ⟨model, hread⟩).1
      exact ⟨fun _ => ⟨model, hread⟩, fun hnot => absurd hshaped hnot⟩
    | error fault =>
      have hrefused := isRefusedFor_of_ofMapping hread
      refine ⟨fun hshaped => ?_, fun _ => ⟨fault, hread, isOfShape_of_isRefusedFor hrefused hshort⟩⟩
      rcases not_isWellShaped_or_not_hasIterableIndexes hrefused hshort with hnot | hnot
      · exact absurd hshaped hnot
      · exact absurd (hiterable hshaped) hnot

/-- A model is read exactly when its data has the right shape, its unique indexes have items to look
at, and its names and words have texts; every fault names what is wrong with the data; and without
long integers malformed data counts as absent except for unique indexes without items. -/
theorem ofMapping_degrades_iff (raw : Value) :
    ((∃ model, Model.ofMapping raw = .ok model) ↔
      IsWellShaped raw ∧ HasIterableIndexes raw ∧ ModelHasText raw) ∧
    (∀ fault, Model.ofMapping raw = .error fault → IsRefusedFor raw fault) ∧
    (¬raw.HoldsLong → (Degrades raw ↔ (IsWellShaped raw → HasIterableIndexes raw))) :=
  ⟨exists_model_ofMapping_ok_iff, fun _ => isRefusedFor_of_ofMapping, degrades_iff_of_not_holdsLong⟩

/-- A model whose data has the wrong type under every key but its name and the list of its
fields. -/
def garbledOrder : Value := .map [
  (.text "name", .text "Order"),
  (.text "dbName", .list [.int 1]),
  (.text "documentation", .bool true),
  (.text "primaryKey", .map [(.text "fields", .text "id")]),
  (.text "uniqueFields", .text "email"),
  (.text "fields", .list [
    .null,
    .map [
      (.text "name", .text "id"),
      (.text "type", .list [.null]),
      (.text "kind", .map []),
      (.text "isList", .text "maybe"),
      (.text "nativeType", .list [.int 7, .int 8]),
      (.text "relationFromFields", .bool true),
      (.text "documentation", .list [])]])]

theorem garbledOrder_degrades : ¬garbledOrder.HoldsLong ∧ Degrades garbledOrder := by
  have hdigits : ∀ n ∈ [(1 : Int), 7, 8], Text.hasDecimal n = true := by decide +kernel
  have hshort : ¬garbledOrder.HoldsLong := by
    simpa [garbledOrder] using hdigits
  have hiterable : HasIterableIndexes garbledOrder := by
    intro w hw
    obtain rfl : .text "email" = w := Option.some.inj hw
    exact trivial
  exact ⟨hshort, ((ofMapping_degrades_iff garbledOrder).2.2 hshort).2 fun _ => hiterable⟩

/-- Unique indexes that are a number are not left out. -/
theorem not_all_degrade : ¬∀ entries : Entries, Degrades (.map entries) := by
  intro h
  let entries : Entries := [(.text "name", .text "Order"), (.text "uniqueFields", .int 5)]
  have hshaped : IsWellShaped (.map entries) :=
    ⟨⟨"Order", rfl, nofun⟩, fun _ => nofun, fun _ => nofun⟩
  obtain ⟨model, hmodel⟩ := (h entries).read hshaped
  cases hmodel

end SchemaBook
