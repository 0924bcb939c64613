import FormScaffold.Json.Source
import FormScaffold.Proofs.Json.Normalized
import FormScaffold.Record.Fields
import Mathlib.Data.List.Forall2
import Mathlib.Data.List.Nodup

/-!
# Records and their fields

What is written as a value of JSON is read from it: numbers below the limit of their type,
options, lists, and maps that are in order.

A record is read from data exactly if each of its fields is read from what is given for it.
Data that names every field once, in any order, is such data; what is read from any data is put
together from readings of its fields.  So a record that is written as an object is read back,
whether the members of objects are in the order of the fields or in that of their names.
-/

namespace FormScaffold.Record

open Json

variable {σ α β : Type}

/-! ## Values that are read back -/

theorem naturalBelow_ofNat {limit n : Nat} (h : n < limit) :
    naturalBelow limit (Value.ofNat n) = .ok n := by
  have hnumber : Source.natural? (Value.ofNat n) = some n := by
    change (if (0 : Int) ≤ (n : Int) then some (n : Int).toNat else none) = some n
    simp
  unfold naturalBelow
  rw [hnumber]
  simp [h]

theorem naturalBelow_eq_ok [Source σ] {limit n : Nat} {s : σ} (h : naturalBelow limit s = .ok n) :
    n < limit := by
  unfold naturalBelow at h
  split at h
  · split at h
    · rename_i hlimit
      cases h
      exact hlimit
    · cases h
  · cases h

/-- An option is read back if what it may hold is, and is not written as nothing. -/
theorem optionOf_ofOption {d : Decode Value α} {f : α → Value} {o : Option α}
    (h : ∀ a, o = some a → d (f a) = .ok a ∧ Source.isNone (f a) = false) :
    optionOf d (Value.ofOption f o) = .ok o := by
  cases o with
  | none => rfl
  | some a =>
      obtain ⟨hread, hgiven⟩ := h a rfl
      unfold optionOf Value.ofOption
      simp only [hgiven, hread, Bool.false_eq_true, if_false]

theorem ofOption_map {β : Type} (f : β → Value) (g : α → β) (o : Option α) :
    Value.ofOption f (o.map g) = Value.ofOption (fun a => f (g a)) o := by
  cases o <;> rfl

/-- What an option that was read holds was read itself. -/
theorem optionOf_eq_some [Source σ] {d : Decode σ α} {s : σ} {a : α}
    (h : optionOf d s = .ok (some a)) : Source.isNone s = false ∧ d s = .ok a := by
  unfold optionOf at h
  split at h
  · cases h
  · rename_i hgiven
    split at h
    · rename_i a' hread
      cases h
      exact ⟨by simpa using hgiven, hread⟩
    · cases h

/-- Pieces are read one by one. -/
theorem each_eq_ok {d : Decode σ α} {items : List σ} {as : List α} :
    each d items = .ok as ↔ List.Forall₂ (fun item a => d item = .ok a) items as := by
  constructor
  · intro h
    induction items generalizing as with
    | nil =>
        cases h
        exact .nil
    | cons item rest ih =>
        unfold each at h
        split at h
        · cases h
        · rename_i a hitem
          split at h
          · cases h
          · rename_i more hrest
            cases h
            exact .cons hitem (ih hrest)
  · intro h
    induction h with
    | nil => rfl
    | cons hitem _ ih =>
        unfold each
        rw [hitem, ih]

theorem listOf_eq_ok [Source σ] {d : Decode σ α} {s : σ} {as : List α} : listOf d s = .ok as ↔
    ∃ items, Source.items? s = some items ∧
      List.Forall₂ (fun item a => d item = .ok a) items as := by
  unfold listOf
  cases hitems : Source.items? s with
  | none => simp
  | some items => simp [each_eq_ok]

theorem listOf_map {d : Decode Value α} {f : α → Value} {as : List α}
    (h : ∀ a ∈ as, d (f a) = .ok a) : listOf d (.array (as.map f)) = .ok as := by
  refine listOf_eq_ok.mpr ⟨as.map f, rfl, ?_⟩
  rw [List.forall₂_map_left_iff]
  exact List.forall₂_same.mpr h

/-- What holds of everything that is read holds of the members of a list that is read. -/
theorem forall_of_listOf [Source σ] {d : Decode σ α} {P : α → Prop}
    (hread : ∀ s a, d s = .ok a → P a) {s : σ} {as : List α} (h : listOf d s = .ok as) :
    ∀ a ∈ as, P a := by
  obtain ⟨items, -, heach⟩ := listOf_eq_ok.mp h
  clear h
  induction heach with
  | nil =>
      intro a ha
      cases ha
  | cons hitem _ ih =>
      intro a ha
      rcases List.mem_cons.mp ha with rfl | ha
      · exact hread _ _ hitem
      · exact ih a ha

theorem eachEntry_mapValues (pairs : List (String × String)) :
    eachEntry (fun k => .ok k) text (Keyed.mapValues Value.string pairs) = .ok pairs := by
  induction pairs with
  | nil => rfl
  | cons p rest ih =>
      obtain ⟨k, v⟩ := p
      have htext : text (Value.string v) = .ok v := rfl
      unfold Keyed.mapValues at ih ⊢
      rw [List.map_cons]
      unfold eachEntry
      simp only [htext, ih]

/-- A map in order is read back. -/
theorem textMap_ofStringMap {m : Keyed String} (h : m.Ordered) :
    textMap (Value.ofStringMap m) = .ok m := by
  have hentries : entriesOf (fun k => .ok k) text (Value.ofStringMap m) = .ok m :=
    eachEntry_mapValues m
  unfold textMap
  rw [hentries]
  simp only [Keyed.ofPairs_of_ordered h]

/-- A map that was read is in order. -/
theorem textMap_eq_ok [Source σ] {s : σ} {m : Keyed String} (h : textMap s = .ok m) :
    m.Ordered := by
  unfold textMap at h
  split at h
  · cases h
    exact Keyed.ordered_ofPairs _
  · cases h

/-- A choice is read back by its name. -/
theorem choice_string {choices : List (String × α)} {name : String} {a : α}
    (h : choices.lookup name = some a) : choice choices (Value.string name) = .ok a := by
  have hvariant : Source.variant? (Value.string name) = some (name, true) := rfl
  have hnamed : choiceNamed choices name = .ok a := by
    unfold choiceNamed
    rw [h]
  unfold choice
  simp only [hvariant, hnamed]
  rfl

/-! ## Values with their members in any order -/

/-- The value is read as `a`, as it is and with the members of its objects in order. -/
structure ReadsAs (d : Decode Value α) (v : Value) (a : α) : Prop where
  given : d v = .ok a
  ordered : d v.normalized = .ok a

namespace ReadsAs

theorem of_normalized {d : Decode Value α} {v : Value} {a : α} (hread : d v = .ok a)
    (hnormal : v.normalized = v) : ReadsAs d v a :=
  ⟨hread, by rw [hnormal, hread]⟩

theorem text (s : String) : ReadsAs Record.text (.string s) s := ⟨rfl, rfl⟩

theorem bool (b : Bool) : ReadsAs Record.bool (.bool b) b := ⟨rfl, rfl⟩

theorem isNone_normalized (v : Value) : Source.isNone v.normalized = Source.isNone v := by
  cases v <;> rfl

/-- An option is read back if what it may hold is, and is not written as nothing. -/
theorem ofOption {d : Decode Value α} {f : α → Value} {o : Option α}
    (h : ∀ a, o = some a → ReadsAs d (f a) a ∧ Source.isNone (f a) = false) :
    ReadsAs (optionOf d) (.ofOption f o) o := by
  refine ⟨optionOf_ofOption fun a ha => ⟨(h a ha).1.given, (h a ha).2⟩, ?_⟩
  rw [Value.normalized_ofOption]
  refine optionOf_ofOption fun a ha => ⟨(h a ha).1.ordered, ?_⟩
  rw [isNone_normalized, (h a ha).2]

theorem optionalText (o : Option String) :
    ReadsAs (optionOf Record.text) (.ofOption .string o) o :=
  ofOption fun s _ => ⟨text s, rfl⟩

theorem list {d : Decode Value α} {f : α → Value} {as : List α}
    (h : ∀ a ∈ as, ReadsAs d (f a) a) : ReadsAs (listOf d) (.array (as.map f)) as := by
  refine ⟨listOf_map fun a ha => (h a ha).given, ?_⟩
  rw [Value.normalized, Value.normalizedItems_eq_map, List.map_map]
  exact listOf_map fun a ha => (h a ha).ordered

end ReadsAs

namespace Fields

/-! ## Data in the order of the fields -/

/-- The entry is named like the field and has data for it. -/
structure Names (f : Field σ) (entry : String × σ) : Prop where
  name : f.name = entry.1
  check : f.check entry.2 = .ok ()

/-- The entries name the fields of a record in their order, and the record that is built from
them is known. -/
structure Spells (r : Fields σ α) (entries : List (String × σ)) (a : α) : Prop where
  named : List.Forall₂ Names r.fields entries
  build : ∀ data : String → Option σ, (∀ p ∈ entries, data p.1 = some p.2) → r.build data = .ok a

theorem spells_required {name : String} {d : Decode σ α} {s : σ} {a : α} (h : d s = .ok a) :
    (required name d).Spells [(name, s)] a := by
  refine ⟨.cons ⟨rfl, by simp [tested, h]⟩ .nil, fun data hdata => ?_⟩
  have hgiven : data name = some s := hdata (name, s) List.mem_cons_self
  simp only [required, hgiven]
  exact h

theorem spells_defaulted {name : String} {aliases : List String} {default : α} {d : Decode σ α}
    {s : σ} {a : α} (h : d s = .ok a) :
    (defaulted name aliases default d).Spells [(name, s)] a := by
  refine ⟨.cons ⟨rfl, by simp [tested, h]⟩ .nil, fun data hdata => ?_⟩
  have hgiven : data name = some s := hdata (name, s) List.mem_cons_self
  simp only [defaulted, hgiven]
  exact h

theorem spells_optional [Source σ] {name : String} {d : Decode σ α} {s : σ} {o : Option α}
    (h : optionOf d s = .ok o) : (optional name d).Spells [(name, s)] o := by
  refine ⟨.cons ⟨rfl, by simp [tested, h]⟩ .nil, fun data hdata => ?_⟩
  have hgiven : data name = some s := hdata (name, s) List.mem_cons_self
  simp only [optional, hgiven]
  exact h

theorem map_eq (g : α → β) (r : Fields σ α) : g <$> r = seq (.pure g) r := rfl

theorem Spells.map (g : α → β) {r : Fields σ α} {entries : List (String × σ)} {a : α}
    (h : r.Spells entries a) : (g <$> r).Spells entries (g a) := by
  refine ⟨h.named, fun data hdata => ?_⟩
  rw [map_eq]
  simp only [seq, Fields.pure, h.build data hdata]

theorem Spells.seq {f : Fields σ (α → β)} {x : Fields σ α} {entries more : List (String × σ)}
    {g : α → β} {a : α} (hf : f.Spells entries g) (hx : x.Spells more a) :
    (f <*> x).Spells (entries ++ more) (g a) := by
  refine ⟨List.rel_append hf.named hx.named, fun data hdata => ?_⟩
  have hfirst := hf.build data fun p hp => hdata p (List.mem_append_left _ hp)
  have hsecond := hx.build data fun p hp => hdata p (List.mem_append_right _ hp)
  change (Fields.seq f x).build data = .ok (g a)
  simp only [Fields.seq, hfirst, hsecond]

/-- Entries whose names are found among the fields and not taken are assigned in turn. -/
theorem assignNamed_ok {fields : List (Field σ)} {entries taken : List (String × σ)}
    (hfound : ∀ p ∈ entries, ∃ f, fields.find? (·.answersTo p.1) = some f ∧ Names f p)
    (hnodup : (entries.map Prod.fst).Nodup) (hfresh : ∀ p ∈ entries, taken.lookup p.1 = none) :
    assignNamed fields taken entries = .ok (entries.reverse ++ taken) := by
  induction entries generalizing taken with
  | nil => rfl
  | cons p rest ih =>
      obtain ⟨f, hfind, hnames⟩ := hfound p List.mem_cons_self
      rw [List.map_cons, List.nodup_cons] at hnodup
      have hnew : (taken.lookup f.name).isSome = false := by
        rw [hnames.name, hfresh p List.mem_cons_self]
        rfl
      -- The names of the others are different, so none of them is taken yet.
      have hrest : assignNamed fields ((f.name, p.2) :: taken) rest =
          .ok (rest.reverse ++ (f.name, p.2) :: taken) := by
        refine ih (fun q hq => hfound q (List.mem_cons_of_mem _ hq)) hnodup.2 fun q hq => ?_
        have hother : (q.1 == f.name) = false := by
          rw [hnames.name]
          simp only [beq_eq_false_iff_ne, ne_eq]
          intro heq
          exact hnodup.1 (List.mem_map.mpr ⟨q, hq, heq⟩)
        rw [List.lookup_cons, hother]
        exact hfresh q (List.mem_cons_of_mem _ hq)
      unfold assignNamed
      simp only [hfind, hnew, hnames.check, hrest, Bool.false_eq_true, if_false]
      rw [hnames.name]
      simp

/-- The names by which fields are given. -/
def allNames (fields : List (Field σ)) : List String :=
  fields.flatMap fun f => f.name :: f.aliases

/-- A field is found by its name if no other one is given by it. -/
theorem find?_answersTo {fields : List (Field σ)} (hnodup : (allNames fields).Nodup) {f : Field σ}
    (hf : f ∈ fields) : fields.find? (·.answersTo f.name) = some f := by
  induction fields with
  | nil => cases hf
  | cons g rest ih =>
      obtain ⟨-, hrest, hdisjoint⟩ := List.nodup_append.mp hnodup
      rcases List.mem_cons.mp hf with rfl | hf
      · rw [List.find?_cons_of_pos]
        simp [Field.answersTo]
      · have hname : f.name ∈ allNames rest :=
          List.mem_flatMap.mpr ⟨f, hf, List.mem_cons_self⟩
        have hother : f.name ∉ g.name :: g.aliases := fun hmem => hdisjoint _ hmem _ hname rfl
        obtain ⟨hne, haliases⟩ := not_or.mp (mt List.mem_cons.mpr hother)
        rw [List.find?_cons_of_neg, ih hrest hf]
        simpa [Field.answersTo, haliases] using Ne.symm hne

theorem nodup_map_name {fields : List (Field σ)} (h : (allNames fields).Nodup) :
    (fields.map Field.name).Nodup := by
  refine List.pairwise_map.mpr ((List.nodup_flatMap.mp h).2.imp fun hdisjoint heq => ?_)
  exact hdisjoint List.mem_cons_self (heq ▸ List.mem_cons_self)

theorem lookup_reverse {entries : List (String × σ)} (hnodup : (entries.map Prod.fst).Nodup)
    {p : String × σ} (hp : p ∈ entries) : entries.reverse.lookup p.1 = some p.2 := by
  induction entries with
  | nil => cases hp
  | cons q rest ih =>
      rw [List.map_cons, List.nodup_cons] at hnodup
      rw [List.reverse_cons, List.lookup_append]
      rcases List.mem_cons.mp hp with rfl | hp
      · have hnone : rest.reverse.lookup p.1 = none := by
          rw [List.lookup_eq_none_iff]
          intro r hr
          simp only [bne_iff_ne, ne_eq]
          intro heq
          exact hnodup.1 (heq ▸ List.mem_map_of_mem (List.mem_reverse.mp hr))
        rw [hnone, Option.none_or, List.lookup_cons_self]
      · rw [ih hnodup.2 hp, Option.some_or]

/-- Fields and the entries that name them have the same names. -/
theorem map_name {fields : List (Field σ)} {entries : List (String × σ)}
    (h : List.Forall₂ Names fields entries) : fields.map Field.name = entries.map Prod.fst := by
  induction h with
  | nil => rfl
  | cons hnames _ ih => rw [List.map_cons, List.map_cons, hnames.name, ih]

theorem exists_named {fields : List (Field σ)} {entries : List (String × σ)}
    (h : List.Forall₂ Names fields entries) : ∀ p ∈ entries, ∃ f ∈ fields, Names f p := by
  induction h with
  | nil => nofun
  | @cons f p fields entries hnames _ ih =>
      intro q hq
      rcases List.mem_cons.mp hq with rfl | hq
      · exact ⟨f, List.mem_cons_self, hnames⟩
      · obtain ⟨g, hg, hnames'⟩ := ih q hq
        exact ⟨g, List.mem_cons_of_mem _ hg, hnames'⟩

/-- Data that spells a record, in whatever order, is read as the record. -/
theorem decode_of_spells [Source σ] {r : Fields σ α} {entries given : List (String × σ)} {a : α}
    {s : σ} (h : r.Spells entries a) (hnodup : (allNames r.fields).Nodup)
    (hperm : given.Perm entries) (hshape : Source.shape? s = some (.named given)) :
    r.decode s = .ok a := by
  -- A field's own name is among the names by which it is given, so the given names differ.
  have hnames : (given.map Prod.fst).Nodup :=
    (hperm.map Prod.fst).nodup_iff.mpr (map_name h.named ▸ nodup_map_name hnodup)
  have hfound : ∀ p ∈ given, ∃ f, r.fields.find? (·.answersTo p.1) = some f ∧ Names f p := by
    intro p hp
    obtain ⟨f, hf, hnames⟩ := exists_named h.named p (hperm.mem_iff.mp hp)
    refine ⟨f, ?_, hnames⟩
    rw [← hnames.name]
    exact find?_answersTo hnodup hf
  have hassign : r.assign s = .ok given.reverse := by
    unfold assign
    rw [hshape]
    simp only []
    rw [assignNamed_ok hfound hnames (fun _ _ => rfl), List.append_nil]
  unfold decode
  rw [hassign]
  exact h.build _ fun p hp => lookup_reverse hnames (hperm.mem_iff.mpr hp)

/-! ## Records that are read back -/

/-- The members spell a record, as they are and with the members of their own values in order. -/
structure Writes (r : Fields Value α) (members : List (String × Value)) (a : α) : Prop where
  given : r.Spells members a
  ordered : r.Spells (Value.normalizedMembers members) a

variable {d : Decode Value α} {v : Value} {a : α}

theorem writes_required {name : String} (h : ReadsAs d v a) :
    (required name d).Writes [(name, v)] a :=
  ⟨spells_required h.given, spells_required h.ordered⟩

theorem writes_defaulted {name : String} {aliases : List String} {default : α}
    (h : ReadsAs d v a) : (defaulted name aliases default d).Writes [(name, v)] a :=
  ⟨spells_defaulted h.given, spells_defaulted h.ordered⟩

theorem Writes.map (g : α → β) {r : Fields Value α} {members : List (String × Value)}
    (h : r.Writes members a) : (g <$> r).Writes members (g a) :=
  ⟨h.given.map g, h.ordered.map g⟩

theorem Writes.seq {f : Fields Value (α → β)} {x : Fields Value α}
    {members more : List (String × Value)} {g : α → β} (hf : f.Writes members g)
    (hx : x.Writes more a) : (f <*> x).Writes (members ++ more) (g a) := by
  refine ⟨hf.given.seq hx.given, ?_⟩
  rw [Value.normalizedMembers_append]
  exact hf.ordered.seq hx.ordered

/-- A record is read back from its members. -/
theorem Writes.readsAs {r : Fields Value α} {members : List (String × Value)}
    (h : r.Writes members a) (hnodup : (allNames r.fields).Nodup) :
    ReadsAs r.decode (.object members) a := by
  have hkeys : ((Value.normalizedMembers members).map Prod.fst).Nodup :=
    map_name h.ordered.named ▸ nodup_map_name hnodup
  constructor
  · exact decode_of_spells h.given hnodup (.refl _) rfl
  · rw [Value.normalized]
    exact decode_of_spells h.ordered hnodup (Keyed.ofPairs_perm hkeys) rfl

/-! ## Records that were read -/

theorem decode_eq_ok [Source σ] {r : Fields σ α} {s : σ} {a : α} (h : r.decode s = .ok a) :
    ∃ taken, r.assign s = .ok taken ∧ r.build (fun name => taken.lookup name) = .ok a := by
  unfold decode at h
  split at h
  · cases h
  · rename_i taken hassign
    exact ⟨taken, hassign, h⟩

theorem seq_eq_ok {f : Fields σ (α → β)} {x : Fields σ α} {data : String → Option σ} {b : β}
    (h : (f <*> x).build data = .ok b) :
    ∃ g a, f.build data = .ok g ∧ x.build data = .ok a ∧ g a = b := by
  change (Fields.seq f x).build data = .ok b at h
  simp only [Fields.seq] at h
  cases hfirst : f.build data with
  | error e => simp [hfirst] at h
  | ok g =>
      cases hsecond : x.build data with
      | error e => simp [hfirst, hsecond] at h
      | ok a =>
          rw [hfirst, hsecond] at h
          cases h
          exact ⟨g, a, rfl, rfl, rfl⟩

theorem map_eq_ok {g : α → β} {x : Fields σ α} {data : String → Option σ} {b : β}
    (h : (g <$> x).build data = .ok b) : ∃ a, x.build data = .ok a ∧ g a = b := by
  obtain ⟨g', a, hpure, hbuild, happly⟩ := seq_eq_ok (f := pure g) h
  cases hpure
  exact ⟨a, hbuild, happly⟩

theorem required_eq_ok {name : String} {d : Decode σ α} {data : String → Option σ} {a : α}
    (h : (required name d).build data = .ok a) : ∃ s, data name = some s ∧ d s = .ok a := by
  simp only [required] at h
  split at h
  · rename_i s hgiven
    exact ⟨s, hgiven, h⟩
  · cases h

theorem defaulted_eq_ok {name : String} {aliases : List String} {default : α} {d : Decode σ α}
    {data : String → Option σ} {a : α} (h : (defaulted name aliases default d).build data = .ok a) :
    a = default ∨ ∃ s, d s = .ok a := by
  simp only [defaulted] at h
  split at h
  · rename_i s _
    exact Or.inr ⟨s, h⟩
  · cases h
    exact Or.inl rfl

/-- What an option that may be left out holds was read itself. -/
theorem defaultedOption_eq_ok [Source σ] {name : String} {aliases : List String} {d : Decode σ α}
    {data : String → Option σ} {o : Option α}
    (h : (defaulted name aliases none (optionOf d)).build data = .ok o) :
    ∀ a, o = some a → ∃ s, Source.isNone s = false ∧ d s = .ok a := by
  rintro a rfl
  rcases defaulted_eq_ok h with hnone | ⟨s, hread⟩
  · cases hnone
  · exact ⟨s, optionOf_eq_some hread⟩

theorem optional_eq_ok [Source σ] {name : String} {d : Decode σ α} {data : String → Option σ}
    {o : Option α} (h : (optional name d).build data = .ok o) :
    ∀ a, o = some a → ∃ s, d s = .ok a := by
  rintro a rfl
  simp only [optional] at h
  split at h
  · exact ⟨_, (optionOf_eq_some h).2⟩
  · cases h

end Fields

end FormScaffold.Record
