import ValueSchema.Proofs.Schema.RoundTrip

/-!
# Canonical forms of schemas

A JSON value that decodes to a schema has a canonical form, the JSON form of that schema.  The only
thing that a schema loses on its way through its JSON form is a sample `null`, its own or one at
some depth of its items; a schema that was decoded has none to lose.  So the canonical form of a
value is its own canonical form.
-/

namespace ValueSchema.Schema

/-! ## One depth of the items at a time -/

/-- The schema at a depth of the items, without its own items. -/
def level? : Nat → Schema → Option Schema
  | 0, s => some { s with items := none }
  | depth + 1, s => s.items.bind (level? depth)

/-- The schema without a sample `null` of its own. -/
def dropNullSample (s : Schema) : Schema :=
  { s with sample := s.sample.filter fun found => !found.isNull }

theorem level?_normal (depth : Nat) (s : Schema) :
    level? depth s.normal = (level? depth s).map dropNullSample := by
  induction depth generalizing s with
  | zero =>
      rw [normal_eq]
      rfl
  | succ depth ih =>
      have hitems : s.normal.items = s.items.map normal := by rw [normal_eq]
      rw [level?, level?, hitems, Option.bind_map, Option.map_bind]
      congr 1
      funext inner
      exact ih inner

theorem ext_level?
    {s t : Schema} (h : ∀ depth, level? depth s = level? depth t) :
    s = t := by
  induction s using items_induction generalizing t with
  | step s ih =>
      have houter : s.replace .items none = t.replace .items none := Option.some.inj (h 0)
      have hinner (depth : Nat) : s.items.bind (level? depth) = t.items.bind (level? depth) :=
        h (depth + 1)
      have hitems : s.items = t.items := by
        cases hs : s.items with
        | none =>
            have hnone := hinner 0
            rw [hs, Option.bind_none, eq_comm, Option.bind_eq_none_iff] at hnone
            have hother : ∀ other, t.items ≠ some other := fun other hother =>
              Option.some_ne_none _ (hnone other hother)
            exact (Option.eq_none_iff_forall_ne_some.mpr hother).symm
        | some inner =>
            simp only [hs, Option.bind_some] at hinner
            obtain ⟨other, hother, -⟩ := Option.bind_eq_some_iff.mp (hinner 0).symm
            simp only [hother, Option.bind_some] at hinner
            rw [hother, ih inner hs hinner]
      refine ext_content fun field => ?_
      by_cases hfield : field = .items
      · subst hfield
        exact hitems
      · have hother (u : Schema) : (u.replace .items none).content field = u.content field :=
          content_replace_of_ne u _ hfield
        rw [← hother s, houter, hother t]

/-- The normal form is the schema that has lost the sample `null` at every depth. -/
theorem eq_normal_iff {s t : Schema} :
    t = s.normal ↔ ∀ depth, level? depth t = (level? depth s).map dropNullSample := by
  constructor
  · rintro rfl depth
    exact level?_normal depth s
  · intro h
    refine ext_level? fun depth => ?_
    rw [h, level?_normal]

/-! ## Canonical forms -/

/-- The JSON form of the schema that a value decodes to. -/
def canonical (value : Json) : Except DecodeError Json := (ofJson value).map toJson

theorem canonical_of_ofJson
    {value : Json} {s : Schema} (h : ofJson value = .ok s) :
    canonical value = .ok s.toJson := by
  rw [canonical, h]
  rfl

theorem ofJson_toJson_of_ofJson
    {value : Json} {s : Schema} (h : ofJson value = .ok s) :
    ofJson s.toJson = .ok s := by
  rw [ofJson_toJson, normal_of_ofJson value s h]

/-- The canonical form of a value is its own canonical form. -/
theorem canonical_bind_canonical (value : Json) :
    (canonical value).bind canonical = canonical value := by
  cases h : ofJson value with
  | error error =>
      rw [canonical, h]
      rfl
  | ok s =>
      rw [canonical_of_ofJson h]
      exact canonical_of_ofJson (ofJson_toJson_of_ofJson h)

/-- The JSON form of a schema decodes to the schema without its samples `null`, at every depth; a
decoded schema comes back as it was, so that canonical forms are stable. -/
theorem ofJson_toJson_at_every_depth :
    (∀ s : Schema, ofJson s.toJson = .ok s.normal ∧
      ∀ t, t = s.normal ↔ ∀ depth, level? depth t = (level? depth s).map dropNullSample) ∧
    ∀ (value : Json) (s : Schema), ofJson value = .ok s →
      s.normal = s ∧ ofJson s.toJson = .ok s ∧
        canonical value = .ok s.toJson ∧ (canonical value).bind canonical = canonical value := by
  constructor
  · intro s
    exact ⟨ofJson_toJson s, fun t => eq_normal_iff⟩
  · intro value s h
    exact ⟨normal_of_ofJson value s h, ofJson_toJson_of_ofJson h, canonical_of_ofJson h,
      canonical_bind_canonical value⟩

/-- Samples `null` go at two depths.  A schema that is a sequence, with items that are members and a
member that is no field, comes back from its canonical form. -/
theorem ofJson_toJson_at_every_depth_two :
    let inner : Schema := { type := some "string", sample := some .null }
    let lossy : Schema := { nullable := true, items := some inner, sample := some .null }
    let value : Json := .array [.string "array", .null, .null, .null, .boolean false, .boolean true,
      .array [.null],
      .object [("type", .string "string"), ("x-note", .integer 1), ("example", .null)]]
    let kept : Schema := ofType "string"
    let s : Schema :=
      { type := some "array", readOnly := true, enumeration := [.null], items := some kept }
    ofJson lossy.toJson = .ok { nullable := true, items := some kept } ∧
      ofJson value = .ok s ∧ ofJson s.toJson = .ok s ∧
      (canonical value).bind canonical = canonical value := by
  intro inner lossy value kept s
  have hvalue : ofJson value = .ok s := rfl
  have hstable := ofJson_toJson_at_every_depth.2 value s hvalue
  exact ⟨(ofJson_toJson_at_every_depth.1 lossy).1, hvalue, hstable.2.1, hstable.2.2.2⟩

end ValueSchema.Schema
