import Mathlib.Tactic
import SchemaBook.Doc.Prose
import SchemaBook.Schema.Facts
import SchemaBook.Schema.JoinTable
import SchemaBook.Schema.Validation

/-!
Models with their documentation worded anew. All that is read of a documentation text are its lines,
so a wording that keeps the lines keeps what tags and prose say; names, types and keys do not depend
on it at all. Main statements: what validation finds does not change, and to make the join tables of
reworded models explicit is to reword the models that have them.
-/

namespace SchemaBook

def Field.reworded (w : Option Text → Option Text) (f : Field) : Field :=
  { f with documentation := w f.documentation }

/-- The model with its own documentation and that of its fields worded anew. -/
def Model.reworded (w : Option Text → Option Text) (m : Model) : Model :=
  { m with
    documentation := w m.documentation
    fields := m.fields.map (·.reworded w) }

/-- A wording under which a reader of lines sees no difference. It leaves alone what join tables are
documented with, so it makes no difference whether it comes before or after them. -/
structure KeepsLines (w : Option Text → Option Text) : Prop where
  lines : ∀ documentation, documentationLines (w documentation) = documentationLines documentation
  none : w none = none
  join : ∀ lesser greater, w (joinDocumentation lesser greater) = joinDocumentation lesser greater

namespace KeepsLines

variable {w : Option Text → Option Text} (hw : KeepsLines w)
include hw

theorem values (tag : Text) (documentation : Option Text) :
    Tag.values tag (w documentation) = Tag.values tag documentation := by
  rw [Tag.values, hw.lines, Tag.values]

theorem keys (tag : Text) (documentation : Option Text) :
    Tag.keys tag (w documentation) = Tag.keys tag documentation := by
  rw [Tag.keys, hw.values, Tag.keys]

theorem isSet (tag : Text) (documentation : Option Text) :
    Tag.isSet tag (w documentation) = Tag.isSet tag documentation := by
  rw [Tag.isSet, hw.lines, Tag.isSet]

theorem firstInt? (tag : Text) (documentation : Option Text) :
    Tag.firstInt? tag (w documentation) = Tag.firstInt? tag documentation := by
  rw [Tag.firstInt?, hw.values, Tag.firstInt?]

theorem proseLines (documentation : Option Text) :
    proseLines (w documentation) = SchemaBook.proseLines documentation := by
  rw [SchemaBook.proseLines, hw.lines, SchemaBook.proseLines]

end KeepsLines

section Structure

variable (w : Option Text → Option Text) (m : Model)

theorem Model.columns_reworded : (m.reworded w).columns = m.columns.map (·.reworded w) :=
  List.filter_map

theorem Model.relations_reworded : (m.reworded w).relations = m.relations.map (·.reworded w) :=
  List.filter_map

theorem Model.map_name_fields_reworded :
    (m.reworded w).fields.map (·.name) = m.fields.map (·.name) :=
  List.map_map

theorem Model.field?_reworded (name : Text) :
    (m.reworded w).field? name = (m.field? name).map (·.reworded w) :=
  List.find?_map

theorem Model.keyField?_reworded :
    (m.reworded w).keyField? = m.keyField?.map (·.reworded w) := by
  have hmarked : (m.reworded w).fields.find? (·.isId) =
      (m.fields.find? (·.isId)).map (·.reworded w) := List.find?_map
  have hmember : m.primaryKey.findSome? (m.reworded w).field? =
      (m.primaryKey.findSome? m.field?).map (·.reworded w) := by
    rw [List.map_findSome?]
    congr 1
    funext name
    exact m.field?_reworded w name
  rw [keyField?, keyField?, Option.map_or, hmarked]
  exact congrArg (Option.or _) hmember

theorem Model.keyColumn_reworded : (m.reworded w).keyColumn = m.keyColumn := by
  rw [keyColumn, keyField?_reworded, keyColumn]
  cases m.keyField? <;> rfl

theorem Model.isForeignKey_reworded (f : Field) :
    (m.reworded w).isForeignKey (f.reworded w) = m.isForeignKey f := by
  rw [isForeignKey, relations_reworded, List.any_map]
  rfl

theorem modelPlace?_reworded (models : List Model) (name : Text) :
    modelPlace? (models.map (·.reworded w)) name = modelPlace? models name :=
  List.findIdx?_map ..

theorem counterpart?_reworded (owner : Model) (f : Field) (target : Model) :
    counterpart? (owner.reworded w) (f.reworded w) (target.reworded w) =
      (counterpart? owner f target).map (·.reworded w) :=
  List.find?_map

end Structure

section Validation

variable (w : Option Text → Option Text) (config : ValidationConfig)

theorem scanFields_reworded (m : Model) (modelPlace : Nat) (seen : List Text) (place : Nat)
    (fields : List Field) :
    scanFields config (m.reworded w) modelPlace seen place (fields.map (·.reworded w)) =
      scanFields config m modelPlace seen place fields := by
  induction fields generalizing seen place with
  | nil => rfl
  | cons f rest ih =>
    rw [List.map_cons, scanFields, ih, scanFields]
    rfl

theorem ModelScan.step_reworded (scan : ModelScan) (entry : Model × Nat) :
    scan.step config (entry.1.reworded w, entry.2) = scan.step config entry := by
  obtain ⟨m, place⟩ := entry
  have hfields := scanFields_reworded w config m place [] 0 m.fields
  change scanFields config (m.reworded w) place [] 0 (m.reworded w).fields = _ at hfields
  rw [step, step, hfields]
  rfl

theorem scanTargets_reworded (names : List (Text × Nat)) (entry : Model × Nat) :
    scanTargets config names (entry.1.reworded w, entry.2) = scanTargets config names entry := by
  rw [scanTargets, Model.relations_reworded, List.flatMap_map]
  rfl

/-- Validation reads no documentation. -/
theorem validate_reworded (models : List Model) :
    validate (models.map (·.reworded w)) config = validate models config := by
  have hscan : (models.map (·.reworded w)).zipIdx.foldl (ModelScan.step config) {} =
      models.zipIdx.foldl (ModelScan.step config) {} := by
    rw [List.zipIdx_map, List.foldl_map]
    congr 1
    funext scan entry
    exact scan.step_reworded w config entry
  have htargets : ∀ names, (models.map (·.reworded w)).zipIdx.flatMap (scanTargets config names) =
      models.zipIdx.flatMap (scanTargets config names) := by
    intro names
    rw [List.zipIdx_map, List.flatMap_map]
    congr 1
    funext entry
    exact scanTargets_reworded w config names entry
  simp only [validate, hscan, htargets, List.isEmpty_map]

end Validation

/-- A change at one place of a list commutes with a change of all elements. -/
theorem modify_map {α : Type} {g h : α → α} (hcomm : ∀ a, h (g a) = g (h a)) (xs : List α)
    (place : Nat) : (xs.map g).modify place h = (xs.modify place h).map g := by
  apply List.ext_getElem?
  intro k
  simp only [List.getElem?_modify, List.getElem?_map]
  cases xs[k]? with
  | none => rfl
  | some a => by_cases hk : place = k <;> simp [hk, hcomm]

section JoinTables

variable {w : Option Text → Option Text} (hw : KeepsLines w)
include hw

theorem Field.reworded_of_none {f : Field} (h : f.documentation = none) : f.reworded w = f := by
  rw [Field.reworded, h, hw.none, ← h]

theorem Model.linkedTo_reworded (table column : Text) (m : Model) :
    (m.reworded w).linkedTo table column = (m.linkedTo table column).reworded w := by
  have hfield : joinListField table column (m.reworded w) =
      (joinListField table column m).reworded w := by
    rw [Field.reworded_of_none hw rfl, joinListField, map_name_fields_reworded, joinListField]
  rw [linkedTo, hfield]
  simp only [linkedTo, reworded, List.map_append, List.map_singleton]

theorem joinDocumentation_reworded (lesser greater : Model) :
    joinDocumentation (lesser.reworded w) (greater.reworded w) =
      joinDocumentation lesser greater := by
  have hlines : joinTagLines (lesser.reworded w) (greater.reworded w) =
      joinTagLines lesser greater := by
    simp only [joinTagLines, joinKeys, Model.reworded, hw.keys]
  rw [joinDocumentation, hlines, joinDocumentation]

theorem joinModel_reworded (lesser greater : Model) :
    joinModel (lesser.reworded w) (greater.reworded w) =
      (joinModel lesser greater).reworded w := by
  have hcolumn : ∀ (column : Text) (target : Model),
      joinColumn column (target.reworded w) = (joinColumn column target).reworded w := by
    intro column target
    rw [Field.reworded_of_none hw rfl, joinColumn, Model.keyColumn_reworded, joinColumn]
  have hrelation : ∀ (table relation column : Text) (target : Model),
      joinRelation table relation column (target.reworded w) =
        (joinRelation table relation column target).reworded w := by
    intro table relation column target
    rw [Field.reworded_of_none hw rfl, joinRelation, Model.keyColumn_reworded]
    rfl
  simp only [joinModel, hcolumn, hrelation, joinDocumentation_reworded hw]
  conv_rhs => rw [Model.reworded, hw.join]
  rfl

theorem addJoinTable_reworded (models : List Model) (lesser greater : Nat) :
    addJoinTable (models.map (·.reworded w)) lesser greater =
      (addJoinTable models lesser greater).map (·.reworded w) := by
  have hlinked : ∀ (xs : List Model) (place : Nat) (table column : Text),
      (xs.map (·.reworded w)).modify place (·.linkedTo table column) =
        (xs.modify place (·.linkedTo table column)).map (·.reworded w) :=
    fun xs place table column => modify_map (Model.linkedTo_reworded hw table column) xs place
  rw [addJoinTable, List.getElem?_map, List.getElem?_map, addJoinTable]
  cases models[lesser]? with
  | none => rfl
  | some low =>
    cases models[greater]? with
    | none => rfl
    | some high =>
      simp only [Option.map_some, List.map_append, List.map_singleton, joinModel_reworded hw,
        hlinked]
      rfl

theorem joinField_reworded (owner : Model) (models : List Model) (f : Field) :
    joinField (owner.reworded w) (models.map (·.reworded w)) (f.reworded w) =
      (joinField owner models f).map (·.reworded w) := by
  have hbare : (f.reworded w).isBareList = f.isBareList := rfl
  have hname : ∀ m : Model, (m.reworded w).name = m.name := fun _ => rfl
  have htype : (f.reworded w).type = f.type := rfl
  unfold joinField
  simp only [hbare, hname, htype, modelPlace?_reworded, List.getElem?_map]
  split
  · rfl
  cases modelPlace? models owner.name with
  | none => rfl
  | some here =>
    cases modelPlace? models f.type with
    | none => rfl
    | some there =>
      cases htarget : models[there]? with
      | none => simp [htarget]
      | some target =>
        simp only [htarget, Option.map_some, counterpart?_reworded, Option.isNone_map, hname,
          addJoinTable_reworded hw]
        split_ifs <;> rfl

theorem joinOwner_reworded (models : List Model) (owner : Model) :
    joinOwner (models.map (·.reworded w)) (owner.reworded w) =
      (joinOwner models owner).map (·.reworded w) := by
  change (owner.fields.map (·.reworded w)).foldl (joinField (owner.reworded w)) _ = _
  rw [List.foldl_map, joinOwner]
  refine List.foldl_hom (List.map (Model.reworded w)) ?_
  intro before f
  exact joinField_reworded hw owner before f

/-- To make join tables explicit after a rewording is to reword the models that have them. -/
theorem withJoinTables_reworded (models : List Model) :
    withJoinTables (models.map (·.reworded w)) = (withJoinTables models).map (·.reworded w) := by
  rw [withJoinTables, List.foldl_map, withJoinTables]
  refine List.foldl_hom (List.map (Model.reworded w)) ?_
  intro before owner
  exact joinOwner_reworded hw before owner

end JoinTables

end SchemaBook
