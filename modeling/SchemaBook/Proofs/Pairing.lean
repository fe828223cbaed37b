import SchemaBook.Proofs.JoinTable.Halves
import SchemaBook.Proofs.JoinTable.Opposite

/-!
The two searches that pair fields: for the other half of a bare list, and for the opposite end of a
relation. Each takes the first field that fits, and whether two fields fit does not depend on the
one that the search starts from. So from the field that is found there is always a way back, though
not always to the same field: among several relations between two models the first is taken. Main
statement: both searches lead back to the owner, the second one to the field itself where no other
relation of the owner could be meant.
-/

namespace SchemaBook

theorem IsOtherHalf.symm {owner target : Model} {field half : Field}
    (hbare : field.isBareList = true) (htype : field.type = target.name)
    (h : IsOtherHalf owner field target half) : IsOtherHalf target half owner field := by
  obtain ⟨-, -, hself, hagree⟩ := h
  refine ⟨hbare, htype, ?_, hagree.symm⟩
  rintro ⟨hmodel, hname⟩
  exact hself ⟨hmodel.symm, hname.symm⟩

theorem IsOpposite.symm {owner target : Model} {field half : Field}
    (htype : field.type = target.name) (h : IsOpposite owner field target half) :
    IsOpposite target half owner field := by
  obtain ⟨hself, hrelationName, -⟩ := h
  refine ⟨?_, hrelationName.symm, htype⟩
  rintro ⟨hmodel, hname⟩
  exact hself ⟨hmodel.symm, hname.symm⟩

/-- Where a field of the target can be the other half, the search for it finds one. -/
theorem isSome_counterpart?_of_isOtherHalf {owner target : Model} {field half : Field}
    (hhalf : half ∈ target.fields) (h : IsOtherHalf owner field target half) :
    (counterpart? owner field target).isSome = true := by
  rw [counterpart?_eq_find?]
  exact List.find?_isSome.2 ⟨half, hhalf, decide_eq_true h⟩

/-- The search for the opposite end finds a relation of the model that the field leads to. -/
theorem exists_target_of_oppositeField? {models : List Model}
    (hnames : (models.map (·.name)).Nodup) {owner : Model} {field half : Field}
    (h : oppositeField? models owner field = some half) :
    ∃ target ∈ models, field.type = target.name ∧ half ∈ target.relations ∧
      IsOpposite owner field target half := by
  obtain ⟨target, htarget, -⟩ := List.exists_of_findSome?_eq_some h
  obtain ⟨hmem, hname⟩ := List.mem_filter.1 htarget
  have htype : field.type = target.name := (beq_iff_eq.1 hname).symm
  rw [oppositeField?_of_mem hnames hmem owner htype] at h
  have htest := List.find?_some h
  exact ⟨target, hmem, htype, List.mem_of_find?_eq_some h, of_decide_eq_true htest⟩

/-- Where a relation of the target can be the opposite end, the search for it finds one. -/
theorem exists_oppositeField?_of_isOpposite {models : List Model}
    (hnames : (models.map (·.name)).Nodup) {owner target : Model} (htarget : target ∈ models)
    {field half : Field} (htype : field.type = target.name) (hhalf : half ∈ target.relations)
    (h : IsOpposite owner field target half) :
    ∃ found ∈ target.relations, oppositeField? models owner field = some found ∧
      IsOpposite owner field target found := by
  rw [oppositeField?_of_mem hnames htarget owner htype]
  obtain ⟨found, hfound⟩ : ∃ found,
      target.relations.find? (fun f => decide (IsOpposite owner field target f)) = some found :=
    Option.isSome_iff_exists.1 (List.find?_isSome.2 ⟨half, hhalf, decide_eq_true h⟩)
  have htest := List.find?_some hfound
  exact ⟨found, List.mem_of_find?_eq_some hfound, hfound, of_decide_eq_true htest⟩

/-- The field is the only relation of the owner, the given half apart, that leads to the target
under its relation name. -/
def IsOnlyLink (owner : Model) (field : Field) (target : Model) (half : Field) : Prop :=
  ∀ f ∈ owner.relations, f.type = target.name → f.relationName = field.relationName → f ≠ half →
    f = field

instance (owner : Model) (field : Field) (target : Model) (half : Field) :
    Decidable (IsOnlyLink owner field target half) :=
  inferInstanceAs (Decidable (∀ f ∈ owner.relations, f.type = target.name →
    f.relationName = field.relationName → f ≠ half → f = field))

/-- With distinct model names, for a field of one of the models:

* The other half that is found for it is a field of the target, and another one than the field. If
  the field is a bare list that leads to the target, the search from that half finds one as well.
* If the field is a relation, the opposite end that is found for it is a relation of the model that
  the field leads to, and another one than the field. The search from there finds a relation of the
  owner that leads to the same model under the same relation name, and finds the field if there is
  no other such relation.

Owner and target may be one model. Which field is meant is told by its name and that of its model,
so field names need not be distinct. -/
theorem pairing_searches_lead_back {models : List Model} (hnames : (models.map (·.name)).Nodup)
    {owner : Model} (howner : owner ∈ models) {field : Field} (hfield : field ∈ owner.fields) :
    (∀ target half, counterpart? owner field target = some half →
        half ∈ target.fields ∧ ¬(target.name = owner.name ∧ half.name = field.name) ∧
          (field.isBareList = true → field.type = target.name →
            (counterpart? target half owner).isSome = true)) ∧
      (field.isRelation = true → ∀ half, oppositeField? models owner field = some half →
        ∃ target ∈ models, target.name = field.type ∧ half ∈ target.relations ∧
          ¬(target.name = owner.name ∧ half.name = field.name) ∧
          ∃ back ∈ owner.relations, oppositeField? models target half = some back ∧
            back.type = target.name ∧ back.relationName = field.relationName ∧
            (IsOnlyLink owner field target half → back = field)) := by
  constructor
  · intro target half h
    obtain ⟨hhalf, hother⟩ := isOtherHalf_of_counterpart? h
    refine ⟨hhalf, hother.2.2.1, ?_⟩
    intro hbare htype
    exact isSome_counterpart?_of_isOtherHalf hfield (hother.symm hbare htype)
  · intro hrelation half h
    obtain ⟨target, htarget, htype, hhalf, hopposite⟩ := exists_target_of_oppositeField? hnames h
    have hself : field ∈ owner.relations := List.mem_filter.2 ⟨hfield, hrelation⟩
    obtain ⟨back, hback, hfound, hfoundOpposite⟩ :=
      exists_oppositeField?_of_isOpposite hnames howner hopposite.2.2 hself (hopposite.symm htype)
    obtain ⟨happart, hname, hbackType⟩ := hfoundOpposite
    have hbackName : back.relationName = field.relationName := hname.trans hopposite.2.1
    refine ⟨target, htarget, htype.symm, hhalf, hopposite.1, back, hback, hfound, hbackType,
      hbackName, ?_⟩
    intro honly
    refine honly back hback hbackType hbackName ?_
    -- If the half itself came back, owner and target would be one model, and there the search from
    -- the half passes over it.
    rintro rfl
    exact happart ⟨hopposite.2.2.symm.trans hbackType, rfl⟩

/-- A list field by which a person leads to others. -/
def mentoringHalf (name : Text) : Field :=
  { bareListTo "Person" with name, relationName := some "Mentoring" }

def mentors : Field := mentoringHalf "mentors"

def mentees : Field := mentoringHalf "mentees"

/-- A model with two list fields, both leading to the model itself. -/
def person : Model := { name := "Person", fields := [mentors, mentees] }

/-- Both searches find the one list field from the other, and go back. -/
theorem mentoring_searches_lead_back :
    (([person] : List Model).map (·.name)).Nodup ∧
      counterpart? person mentors person = some mentees ∧
      (counterpart? person mentees person).isSome = true ∧
      oppositeField? [person] person mentors = some mentees ∧
      oppositeField? [person] person mentees = some mentors := by
  have hnames : (([person] : List Model).map (·.name)).Nodup := List.nodup_singleton _
  have hmentors : mentors ∈ person.fields := List.mem_cons_self
  have hcounterpart : counterpart? person mentors person = some mentees := by decide
  have hopposite : oppositeField? [person] person mentors = some mentees := by decide
  obtain ⟨hhalves, hends⟩ :=
    pairing_searches_lead_back hnames (List.mem_singleton_self person) hmentors
  obtain ⟨-, -, hback⟩ := hhalves person mentees hcounterpart
  obtain ⟨target, htarget, -, -, -, back, -, hfound, -, -, hsame⟩ := hends rfl mentees hopposite
  obtain rfl := List.mem_singleton.1 htarget
  have hmine : back = mentors := hsame (by decide)
  exact ⟨hnames, hcounterpart, hback (by decide) rfl, hopposite, hmine ▸ hfound⟩

/-- With a third list field the way back from what is found for it ends at another field. -/
example :
    let link (name : Text) : Field := { bareListTo "Person" with name }
    let friend : Model :=
      { name := "Person", fields := [link "mentors", link "mentees", link "peers"] }
    oppositeField? [friend] friend (link "peers") = some (link "mentors") ∧
      oppositeField? [friend] friend (link "mentors") = some (link "mentees") := by
  decide

end SchemaBook
