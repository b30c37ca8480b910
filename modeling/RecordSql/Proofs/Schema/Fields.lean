import Mathlib.Data.List.Induction
import RecordSql.Schema.Descriptor

/-!
# Fields of schemas

Which members of a schema are stored, and as what. Fields keep the order and the positions of their
members, whatever is left out between them, and flagging one of them as the identity changes nothing
else.

* `MemberKind.StoredAs`, `resolve_eq_some_iff`: the kind of the column that a member is stored in.
* `Schema.mem_fields_iff`, `Schema.pairwise_ordinal`: which fields there are, and in which order.
* `Schema.find?_ordinal_of_getElem?`: looking a member up by its position.
* `Schema.columns_descriptor`: the columns, without the detour over fields.
* `Descriptor.fields_flag`: what is left of several flags.
* `Schema.mem_fields_flag_iff`, `Schema.identity?_flag`: the fields and the identity behind them.
-/

namespace RecordSql

/-! ## Kinds of columns -/

/-- A member of a kind is stored in a column of a kind: it is a scalar of this kind, or stands for a
    type argument that is one. -/
inductive MemberKind.StoredAs (arguments : List TypeArgument) : MemberKind → FieldKind → Prop
  | scalar (kind : FieldKind) : StoredAs arguments (.scalar kind) kind
  | argument {index : Nat} {argument : TypeArgument} {kind : FieldKind} :
    arguments[index]? = some argument → argument.kind = .scalar kind →
      StoredAs arguments (.generic index) kind

theorem MemberKind.fieldKind?_eq_some_iff {kind : MemberKind} {stored : FieldKind} :
    kind.fieldKind? = some stored ↔ kind = .scalar stored := by
  cases kind <;> simp [fieldKind?]

theorem MemberKind.resolve_eq_some_iff {arguments : List TypeArgument} {kind : MemberKind}
    {stored : FieldKind} :
    kind.resolve arguments = some stored ↔ kind.StoredAs arguments stored := by
  constructor
  · intro h
    cases kind with
    | generic index =>
      obtain ⟨argument, hargument, hkind⟩ := Option.bind_eq_some_iff.mp h
      exact .argument hargument (fieldKind?_eq_some_iff.mp hkind)
    | scalar kind =>
      obtain rfl := Option.some.inj h
      exact .scalar kind
    | object | interface | array | sequence => cases h
  · rintro (_ | ⟨hargument, hkind⟩)
    · rfl
    · exact Option.bind_eq_some_iff.mpr ⟨_, hargument, fieldKind?_eq_some_iff.mpr hkind⟩

/-- The member is stored and takes part in statements. -/
def Member.IsColumn (arguments : List TypeArgument) (m : Member) : Prop :=
  m.ignored = false ∧ ∃ kind, m.kind.StoredAs arguments kind

theorem Member.isColumn_iff {arguments : List TypeArgument} {m : Member} :
    m.IsColumn arguments ↔ m.ignored = false ∧ (m.kind.resolve arguments).isSome = true := by
  simp only [IsColumn, Option.isSome_iff_exists, MemberKind.resolve_eq_some_iff]

instance (arguments : List TypeArgument) (m : Member) : Decidable (m.IsColumn arguments) :=
  decidable_of_iff _ Member.isColumn_iff.symm

/-! ## Fields -/

/-- The field is what is stored of a member. -/
structure Field.Stores (arguments : List TypeArgument) (f : Field) (m : Member) : Prop where
  name : f.name = m.name
  ignored : f.ignored = m.ignored
  kind : m.kind.StoredAs arguments f.kind

/-- The field without the flag of the identity. -/
def Field.unflagged (f : Field) : Field :=
  { f with identity := false }

namespace Schema

variable {s : Schema}

theorem field?_eq_some_iff {i : Nat} {m : Member} {f : Field} :
    s.field? i m = some f ↔
      f.ordinal = i ∧ f.Stores s.typeArguments m ∧ f.identity = false := by
  simp only [field?, Option.map_eq_some_iff, MemberKind.resolve_eq_some_iff]
  constructor
  · rintro ⟨kind, hkind, rfl⟩
    exact ⟨rfl, ⟨rfl, rfl, hkind⟩, rfl⟩
  · rintro ⟨rfl, hstores, hidentity⟩
    refine ⟨f.kind, hstores.kind, ?_⟩
    rw [← hstores.name, ← hstores.ignored, ← hidentity]

/-- There is a field at the position of every member that is stored, and no other. -/
theorem mem_fields_iff {f : Field} :
    f ∈ s.descriptor.fields ↔
      (∃ m, s.members[f.ordinal]? = some m ∧ f.Stores s.typeArguments m) ∧ f.identity = false := by
  simp only [descriptor, List.mem_filterMap, Prod.exists, List.mk_mem_zipIdx_iff_getElem?,
    field?_eq_some_iff]
  constructor
  · rintro ⟨m, i, hm, rfl, hstores, hidentity⟩
    exact ⟨⟨m, hm, hstores⟩, hidentity⟩
  · rintro ⟨⟨m, hm, hstores⟩, hidentity⟩
    exact ⟨m, f.ordinal, hm, rfl, hstores, hidentity⟩

/-- The field at the position of a member is that of the member. -/
theorem find?_ordinal_of_getElem? {i : Nat} {m : Member} (h : s.members[i]? = some m) :
    (s.descriptor.fields.find? fun f => f.ordinal == i) = s.field? i m := by
  cases hfind : s.descriptor.fields.find? fun f => f.ordinal == i with
  | none =>
    refine (Option.eq_none_iff_forall_not_mem.mpr fun f hf => ?_).symm
    obtain ⟨hordinal, hstores, hidentity⟩ := field?_eq_some_iff.mp hf
    have hmem : f ∈ s.descriptor.fields :=
      mem_fields_iff.mpr ⟨⟨m, hordinal.symm ▸ h, hstores⟩, hidentity⟩
    exact List.find?_eq_none.mp hfind f hmem (beq_iff_eq.mpr hordinal)
  | some f =>
    have hordinal : f.ordinal = i := by simpa using List.find?_some hfind
    obtain ⟨⟨m', hm', hstores⟩, hidentity⟩ :=
      mem_fields_iff.mp (List.mem_of_find?_eq_some hfind)
    obtain rfl : m = m' := Option.some.inj (h.symm.trans (hordinal ▸ hm'))
    exact (field?_eq_some_iff.mpr ⟨hordinal, hstores, hidentity⟩).symm

theorem unflagged_of_mem {f : Field} (h : f ∈ s.descriptor.fields) : f.unflagged = f := by
  rw [Field.unflagged, ← (mem_fields_iff.mp h).2]

/-- Fields are in the order of their members. -/
theorem pairwise_ordinal (s : Schema) :
    s.descriptor.fields.Pairwise fun f g => f.ordinal < g.ordinal := by
  have hpositions : s.members.zipIdx.Pairwise fun e e' => e.2 < e'.2 := by
    rw [← List.pairwise_map, List.zipIdx_map_snd]
    exact List.pairwise_lt_range'
  refine List.pairwise_filterMap.mpr (hpositions.imp fun hlt f hf g hg => ?_)
  rw [(field?_eq_some_iff.mp hf).1, (field?_eq_some_iff.mp hg).1]
  exact hlt

/-- The columns are the members that are stored and not ignored. -/
theorem columns_descriptor (s : Schema) :
    s.descriptor.columns = (s.members.filter (·.IsColumn s.typeArguments)).map Member.name := by
  have hcolumn : ∀ e : Member × Nat,
      ((s.field? e.2 e.1).filter fun f => !f.ignored).map Field.name =
        (Option.guard (·.IsColumn s.typeArguments) e.1).map Member.name := by
    intro e
    rw [field?]
    cases hkind : e.1.kind.resolve s.typeArguments <;> cases hignored : e.1.ignored <;>
      simp [Option.guard, Member.isColumn_iff, hkind, hignored]
  calc s.descriptor.columns
    _ = s.members.zipIdx.filterMap fun e =>
          ((s.field? e.2 e.1).filter fun f => !f.ignored).map Field.name := by
        rw [Descriptor.columns, descriptor, List.filter_filterMap, List.map_filterMap]
    _ = (s.members.zipIdx.map Prod.fst).filterMap fun m =>
          (Option.guard (·.IsColumn s.typeArguments) m).map Member.name := by
        rw [funext hcolumn, List.filterMap_map]
        rfl
    _ = (s.members.filter (·.IsColumn s.typeArguments)).map Member.name := by
        rw [List.zipIdx_map_fst, ← List.map_filterMap, List.filterMap_eq_filter]

end Schema

/-! ## Flags -/

namespace Descriptor

/-- Flags the fields of each of these names in turn. -/
def flag (d : Descriptor) (names : List String) : Descriptor :=
  names.foldl withIdentity d

theorem flag_concat (d : Descriptor) (names : List String) (name : String) :
    d.flag (names ++ [name]) = (d.flag names).withIdentity name := by
  rw [flag, List.foldl_append]
  rfl

theorem table_flag (d : Descriptor) (names : List String) : (d.flag names).table = d.table := by
  induction names using List.reverseRecOn with
  | nil => rfl
  | append_singleton names name ih =>
    rw [flag_concat]
    exact ih

/-- Of several flags the last is left, and nothing else has changed. -/
theorem fields_flag (s : Schema) (names : List String) :
    (s.descriptor.flag names).fields =
      s.descriptor.fields.map fun f => { f with identity := some f.name == names.getLast? } := by
  induction names using List.reverseRecOn with
  | nil =>
    have hnone : ∀ f ∈ s.descriptor.fields, { f with identity := some f.name == none } = f :=
      fun f hf => Schema.unflagged_of_mem hf
    exact (List.map_id _).symm.trans (List.map_congr_left fun f hf => (hnone f hf).symm)
  | append_singleton names name ih =>
    rw [flag_concat, withIdentity, ih, List.map_map, List.getLast?_concat]
    rfl

end Descriptor

namespace Schema

variable (s : Schema) (names : List String)

/-- The fields behind some flags: those of the members that are stored, flagged by the last. -/
theorem mem_fields_flag_iff {f : Field} :
    f ∈ (s.descriptor.flag names).fields ↔
      (∃ m, s.members[f.ordinal]? = some m ∧ f.Stores s.typeArguments m) ∧
        f.identity = (some f.name == names.getLast?) := by
  rw [Descriptor.fields_flag, List.mem_map]
  constructor
  · rintro ⟨f, hf, rfl⟩
    obtain ⟨⟨m, hm, hstores⟩, -⟩ := mem_fields_iff.mp hf
    exact ⟨⟨m, hm, hstores.name, hstores.ignored, hstores.kind⟩, rfl⟩
  · rintro ⟨⟨m, hm, hstores⟩, hidentity⟩
    refine ⟨f.unflagged, mem_fields_iff.mpr ⟨⟨m, hm, ?_⟩, rfl⟩, ?_⟩
    · exact ⟨hstores.name, hstores.ignored, hstores.kind⟩
    · rw [Field.unflagged, ← hidentity]

theorem exists_mem_fields_flag_iff {i : Nat} :
    (∃ f ∈ (s.descriptor.flag names).fields, f.ordinal = i) ↔
      ∃ m kind, s.members[i]? = some m ∧ m.kind.StoredAs s.typeArguments kind := by
  simp only [mem_fields_flag_iff]
  constructor
  · rintro ⟨f, ⟨⟨m, hm, hstores⟩, -⟩, rfl⟩
    exact ⟨m, f.kind, hm, hstores.kind⟩
  · rintro ⟨m, kind, hm, hkind⟩
    exact ⟨⟨m.name, i, kind, some m.name == names.getLast?, m.ignored⟩,
      ⟨⟨m, hm, rfl, rfl, hkind⟩, rfl⟩, rfl⟩

theorem pairwise_ordinal_flag :
    (s.descriptor.flag names).fields.Pairwise fun f g => f.ordinal < g.ordinal := by
  rw [Descriptor.fields_flag, List.pairwise_map]
  exact s.pairwise_ordinal

theorem columns_flag :
    (s.descriptor.flag names).columns =
      (s.members.filter (·.IsColumn s.typeArguments)).map Member.name := by
  rw [← columns_descriptor, Descriptor.columns, Descriptor.fields_flag, List.filter_map,
    List.map_map]
  rfl

theorem map_unflagged_flag :
    (s.descriptor.flag names).fields.map Field.unflagged = s.descriptor.fields := by
  rw [Descriptor.fields_flag, List.map_map]
  exact (List.map_congr_left fun f hf => unflagged_of_mem hf).trans (List.map_id _)

theorem identity?_flag :
    (s.descriptor.flag names).identity? =
      (s.descriptor.flag names).fields.find? fun f => some f.name == names.getLast? := by
  rw [Descriptor.identity?, Descriptor.fields_flag, List.find?_map, List.find?_map]
  rfl

end Schema

end RecordSql
