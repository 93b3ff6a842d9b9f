import EscapeOnce.Proofs.Dict.Entries
import EscapeOnce.Proofs.Value.OfJson
import EscapeOnce.Value.Equality
import Mathlib.Data.List.Perm.Subperm

/-!
# Equality of values is a partial equivalence

Equality looks through lists place by place and through dictionaries key by key, so what it comes to
is said once for each of them (`equals_list`, `equals_map`), and every law is an induction over the
parts of a value (`Value.induction`).

## What could go wrong

The comparison of two dictionaries goes through the entries of the first and looks their keys up in
the second; nobody goes through the second.  That the second has no entry besides is a matter of
size: a dictionary has no key twice, so if all keys of the first are found in a second that is no
larger, these are all the keys there (`Dict.keys_subset_of_length_le`).  This is the only place at
which a law depends on `WellFormed`, and without it equality is not even symmetric.

At the leaves an undefined number differs from itself, and nothing else does.  A value is therefore
equal to itself exactly if no such number stands in it (`equals_self_iff`).  An object is equal to
itself because it is the same object, whatever it holds.

Where the entries of a dictionary stand is nothing that a look-up can see, so reordering them, at
any depth, changes no answer (`Reordered.equals_eq`).
-/

namespace EscapeOnce

/-- Two dictionaries of one size have the same keys if one has all the keys of the other. -/
theorem Dict.keys_subset_of_length_le {α β : Type} {as : Dict α} {bs : Dict β} (has : as.keys.Nodup)
    (hsubset : as.keys ⊆ bs.keys) (hlength : bs.length ≤ as.length) : bs.keys ⊆ as.keys := by
  have hkeys : bs.keys.length ≤ as.keys.length := by
    simpa [keys] using hlength
  exact ((has.subperm hsubset).perm_of_length_le hkeys).symm.subset

namespace Binary64

variable {x y z : Binary64}

/-- Numbers are equal if they are defined, and the same or two zeros. -/
theorem equals_iff :
    x.equals y = true ↔
      x.isNaN = false ∧ y.isNaN = false ∧ (x = y ∨ x.isZero = true ∧ y.isZero = true) := by
  have hbits : x.bits = y.bits ↔ x = y := by
    cases x
    cases y
    simp
  simp [equals, hbits, and_assoc]

theorem equals_comm (x y : Binary64) : x.equals y = y.equals x := by
  rw [Bool.eq_iff_iff, equals_iff, equals_iff]
  constructor <;>
  · rintro ⟨hx, hy, h | ⟨hzero, hzero'⟩⟩
    · exact ⟨hy, hx, Or.inl h.symm⟩
    · exact ⟨hy, hx, Or.inr ⟨hzero', hzero⟩⟩

theorem equals_trans (hxy : x.equals y = true) (hyz : y.equals z = true) : x.equals z = true := by
  rw [equals_iff] at hxy hyz ⊢
  obtain ⟨hx, -, hxy⟩ := hxy
  obtain ⟨-, hz, hyz⟩ := hyz
  refine ⟨hx, hz, ?_⟩
  rcases hxy with rfl | ⟨hzero, hmiddle⟩
  · exact hyz
  · rcases hyz with rfl | ⟨-, hzero'⟩
    · exact Or.inr ⟨hzero, hmiddle⟩
    · exact Or.inr ⟨hzero, hzero'⟩

theorem equals_self (x : Binary64) : x.equals x = !x.isNaN := by
  simp [equals]

end Binary64

namespace Value

/-! ## The parts of a value -/

/-- What holds of a list or a dictionary if it holds of the values in it, and of every other value,
holds of all values. -/
@[elab_as_elim]
theorem induction {motive : Value → Prop} (null : motive null) (bool : ∀ b, motive (bool b))
    (int : ∀ i, motive (int i)) (float : ∀ x, motive (float x)) (str : ∀ t, motive (str t))
    (bytes : ∀ b, motive (bytes b)) (safe : ∀ s, motive (safe s))
    (list : ∀ items, (∀ v ∈ items, motive v) → motive (list items))
    (map : ∀ entries, (∀ entry ∈ entries, motive entry.2) → motive (map entries))
    (object : ∀ o, motive (object o)) (v : Value) : motive v :=
  @Value.rec motive (fun items => ∀ v ∈ items, motive v)
    (fun entries => ∀ entry ∈ entries, motive entry.2)
    (fun _ => True) (fun entry => motive entry.2) (fun _ => True)
    null bool int float str bytes safe list map (fun o _ => object o)
    (fun _ h => absurd h List.not_mem_nil)
    (fun _ _ hv hrest => List.forall_mem_cons.mpr ⟨hv, hrest⟩)
    (fun _ h => absurd h List.not_mem_nil)
    (fun _ _ hv hrest => List.forall_mem_cons.mpr ⟨hv, hrest⟩)
    (fun _ _ _ _ _ _ => trivial) (fun _ _ hv => hv) trivial (fun _ _ => trivial) v

theorem wellFormed_list {items : List Value} :
    (list items).WellFormed ↔ ∀ v ∈ items, v.WellFormed := by
  rw [WellFormed]
  induction items with
  | nil => simp [WellFormedItems]
  | cons v items ih => simp [WellFormedItems, ih]

theorem wellFormed_map {entries : Dict Value} :
    (map entries).WellFormed ↔ entries.keys.Nodup ∧ ∀ entry ∈ entries, entry.2.WellFormed := by
  have hvalues : WellFormedEntries entries ↔ ∀ entry ∈ entries, entry.2.WellFormed := by
    induction entries with
    | nil => simp [WellFormedEntries]
    | cons entry entries ih => rw [WellFormedEntries, List.forall_mem_cons, ih]
  rw [WellFormed, hvalues]

mutual

/-- The dictionaries in the value of a document are made in the order of their keys, and have no key
twice. -/
theorem wellFormed_ofJson : ∀ document : Json, (ofJson document).WellFormed
  | .null | .bool _ | .string _ | .number (.int _) | .number (.float _) => by
    simp [ofJson, WellFormed]
  | .array elements => by
    rw [ofJson, wellFormed_list]
    exact wellFormed_ofElements elements
  | .object members => by
    rw [ofJson, wellFormed_map]
    refine ⟨(Dict.ordered_sortedOf _).nodup_keys, fun entry hentry => ?_⟩
    obtain ⟨member, hmember, hvalue⟩ := Dict.exists_mem_of_mem_sortedOf hentry
    exact hvalue ▸ wellFormed_ofMembers members member hmember

theorem wellFormed_ofElements : ∀ (elements : List Json), ∀ v ∈ ofElements elements, v.WellFormed
  | [] => fun v hv => by
    rw [ofElements] at hv
    exact absurd hv List.not_mem_nil
  | element :: rest => by
    rw [ofElements, List.forall_mem_cons]
    exact ⟨wellFormed_ofJson element, wellFormed_ofElements rest⟩

theorem wellFormed_ofMembers :
    ∀ (members : List (Text × Json)), ∀ entry ∈ ofMembers members, entry.2.WellFormed
  | [] => fun entry hentry => by
    rw [ofMembers] at hentry
    exact absurd hentry List.not_mem_nil
  | (_, member) :: rest => by
    rw [ofMembers, List.forall_mem_cons]
    exact ⟨wellFormed_ofJson member, wellFormed_ofMembers rest⟩

end

/-! ## What equality comes to -/

/-- Lists are equal if they are place by place. -/
theorem equals_list {as bs : List Value} :
    (list as).equals (list bs) = true ↔
      as.length = bs.length ∧
        ∀ (i : Nat) (ha : i < as.length) (hb : i < bs.length), (as[i]).equals bs[i] = true := by
  rw [equals]
  induction as generalizing bs with
  | nil => cases bs <;> simp [equalItems]
  | cons a as ih =>
    cases bs with
    | nil => simp [equalItems]
    | cons b bs =>
      rw [equalItems, Bool.and_eq_true, ih]
      constructor
      · rintro ⟨hab, hlength, hrest⟩
        refine ⟨congrArg (· + 1) hlength, fun i ha hb => ?_⟩
        cases i with
        | zero => exact hab
        | succ i => exact hrest i (Nat.lt_of_succ_lt_succ ha) (Nat.lt_of_succ_lt_succ hb)
      · rintro ⟨hlength, hall⟩
        exact ⟨hall 0 (Nat.succ_pos _) (Nat.succ_pos _), Nat.succ.inj hlength,
          fun i ha hb => hall (i + 1) (Nat.succ_lt_succ ha) (Nat.succ_lt_succ hb)⟩

/-- Dictionaries are equal if they are of one size and each key of the first has an equal value in
the second. -/
theorem equals_map {as bs : Dict Value} :
    (map as).equals (map bs) = true ↔
      as.length = bs.length ∧
        ∀ entry ∈ as, ∃ b, bs.get? entry.1 = some b ∧ entry.2.equals b = true := by
  have hvalues : equalEntries as bs = true ↔
      ∀ entry ∈ as, ∃ b, bs.get? entry.1 = some b ∧ entry.2.equals b = true := by
    induction as with
    | nil => simp [equalEntries]
    | cons entry as ih =>
      rw [equalEntries, List.forall_mem_cons, ← ih]
      cases Dict.get? bs entry.1 <;> simp
  rw [equals, Bool.and_eq_true, beq_iff_eq, hvalues]

/-! ## Symmetry and transitivity -/

theorem equals_symm {v w : Value} (hv : v.WellFormed) (hw : w.WellFormed) (h : v.equals w = true) :
    w.equals v = true := by
  induction v using Value.induction generalizing w with
  | null | bool | int | str | bytes | safe | object =>
    cases w <;> simp_all [equals]
  | float x =>
    cases w with
    | float y => exact (Binary64.equals_comm y x).trans h
    | _ => simp [equals] at h
  | list as ih =>
    cases w with
    | list bs =>
      rw [wellFormed_list] at hv hw
      rw [equals_list] at h ⊢
      obtain ⟨hlength, hall⟩ := h
      refine ⟨hlength.symm, fun i hb ha => ?_⟩
      have hmem := List.getElem_mem ha
      exact ih _ hmem (hv _ hmem) (hw _ (List.getElem_mem hb)) (hall i ha hb)
    | _ => simp [equals] at h
  | map as ih =>
    cases w with
    | map bs =>
      rw [wellFormed_map] at hv hw
      rw [equals_map] at h ⊢
      obtain ⟨hlength, hall⟩ := h
      have hforth : Dict.keys as ⊆ Dict.keys bs := by
        intro key hkey
        obtain ⟨a, ha⟩ := Dict.mem_keys_iff.mp hkey
        obtain ⟨b, hb, -⟩ := hall _ ha
        exact Dict.mem_keys_iff.mpr ⟨b, Dict.mem_of_get?_eq_some hb⟩
      have hback := Dict.keys_subset_of_length_le hv.1 hforth (Nat.le_of_eq hlength.symm)
      refine ⟨hlength.symm, fun entry hentry => ?_⟩
      obtain ⟨a, ha⟩ := Dict.mem_keys_iff.mp (hback (List.mem_map_of_mem hentry))
      obtain ⟨b, hb, hab⟩ := hall _ ha
      have hsame : entry.2 = b :=
        Option.some.inj (((Dict.get?_eq_some_iff hw.1).mpr hentry).symm.trans hb)
      exact ⟨a, (Dict.get?_eq_some_iff hv.1).mpr ha,
        ih _ ha (hv.2 _ ha) (hw.2 _ hentry) (hsame ▸ hab)⟩
    | _ => simp [equals] at h

/-- The answer does not depend on which of two values comes first. -/
theorem equals_comm {v w : Value} (hv : v.WellFormed) (hw : w.WellFormed) :
    v.equals w = w.equals v :=
  Bool.eq_iff_iff.mpr ⟨equals_symm hv hw, equals_symm hw hv⟩

/-- With a key twice in the first dictionary, the second has room for another key. -/
example :
    (map [(['a'], null), (['a'], null)]).equals (map [(['a'], null), (['b'], null)]) = true ∧
    (map [(['a'], null), (['b'], null)]).equals (map [(['a'], null), (['a'], null)]) = false := by
  decide +kernel

theorem equals_trans {v w u : Value} (hvw : v.equals w = true) (hwu : w.equals u = true) :
    v.equals u = true := by
  induction v using Value.induction generalizing w u with
  | null | bool | int | str | bytes | safe | object =>
    cases w <;> cases u <;> simp_all [equals]
  | float x =>
    cases w with
    | float y =>
      cases u with
      | float z => exact Binary64.equals_trans hvw hwu
      | _ => simp [equals] at hwu
    | _ => simp [equals] at hvw
  | list as ih =>
    cases w with
    | list bs =>
      cases u with
      | list cs =>
        rw [equals_list] at hvw hwu ⊢
        refine ⟨hvw.1.trans hwu.1, fun i ha hc => ?_⟩
        have hb : i < bs.length := hvw.1 ▸ ha
        exact ih _ (List.getElem_mem ha) (hvw.2 i ha hb) (hwu.2 i hb hc)
      | _ => simp [equals] at hwu
    | _ => simp [equals] at hvw
  | map as ih =>
    cases w with
    | map bs =>
      cases u with
      | map cs =>
        rw [equals_map] at hvw hwu ⊢
        refine ⟨hvw.1.trans hwu.1, fun entry hentry => ?_⟩
        obtain ⟨b, hb, hab⟩ := hvw.2 entry hentry
        obtain ⟨c, hc, hbc⟩ := hwu.2 _ (Dict.mem_of_get?_eq_some hb)
        exact ⟨c, hc, ih _ hentry hab hbc⟩
      | _ => simp [equals] at hwu
    | _ => simp [equals] at hvw

/-! ## Undefined numbers -/

/-- An undefined number stands in the value, at some depth. -/
inductive HasNaN : Value → Prop
  | float {x : Binary64} (h : x.isNaN = true) : HasNaN (float x)
  | item {items : List Value} {v : Value} (hv : v ∈ items) (h : HasNaN v) : HasNaN (list items)
  | entry {entries : Dict Value} {entry : Text × Value} (hentry : entry ∈ entries)
      (h : HasNaN entry.2) : HasNaN (map entries)

theorem hasNaN_list {items : List Value} : (list items).HasNaN ↔ ∃ v ∈ items, v.HasNaN := by
  constructor
  · rintro (_ | ⟨hv, h⟩)
    exact ⟨_, hv, h⟩
  · rintro ⟨v, hv, h⟩
    exact .item hv h

theorem hasNaN_map {entries : Dict Value} :
    (map entries).HasNaN ↔ ∃ entry ∈ entries, entry.2.HasNaN := by
  constructor
  · rintro (_ | _ | ⟨hentry, h⟩)
    exact ⟨_, hentry, h⟩
  · rintro ⟨entry, hentry, h⟩
    exact .entry hentry h

/-- A value is equal to itself unless an undefined number stands in it. -/
theorem equals_self_iff {v : Value} (hv : v.WellFormed) : v.equals v = true ↔ ¬ v.HasNaN := by
  induction v using Value.induction with
  | null | bool | int | str | bytes | safe | object =>
    exact iff_of_true (by simp [equals]) nofun
  | float x =>
    rw [equals, Binary64.equals_self, Bool.not_eq_true', ← Bool.not_eq_true, not_iff_not]
    exact ⟨.float, fun h => by cases h; assumption⟩
  | list items ih =>
    rw [wellFormed_list] at hv
    rw [equals_list, hasNaN_list]
    constructor
    · rintro ⟨-, hall⟩ ⟨v, hmem, hnan⟩
      obtain ⟨i, hi, rfl⟩ := List.getElem_of_mem hmem
      exact (ih _ hmem (hv _ hmem)).mp (hall i hi hi) hnan
    · intro hnone
      refine ⟨rfl, fun i hi _ => ?_⟩
      have hmem := List.getElem_mem hi
      exact (ih _ hmem (hv _ hmem)).mpr fun hnan => hnone ⟨_, hmem, hnan⟩
  | map entries ih =>
    rw [wellFormed_map] at hv
    rw [equals_map, hasNaN_map]
    constructor
    · rintro ⟨-, hall⟩ ⟨entry, hentry, hnan⟩
      obtain ⟨b, hb, hequals⟩ := hall entry hentry
      have hsame : entry.2 = b :=
        Option.some.inj (((Dict.get?_eq_some_iff hv.1).mpr hentry).symm.trans hb)
      exact (ih _ hentry (hv.2 _ hentry)).mp (hsame ▸ hequals) hnan
    · intro hnone
      refine ⟨rfl, fun entry hentry => ?_⟩
      exact ⟨entry.2, (Dict.get?_eq_some_iff hv.1).mpr hentry,
        (ih _ hentry (hv.2 _ hentry)).mpr fun hnan => hnone ⟨_, hentry, hnan⟩⟩

/-! ## Reordering -/

/-- The second value is the first with the entries of dictionaries in it in another order: of one
dictionary at some depth, or of several one after the other. -/
inductive Reordered : Value → Value → Prop
  | map {as bs : Dict Value} (h : as.Perm bs) : Reordered (map as) (map bs)
  | item (before after : List Value) {v w : Value} (h : Reordered v w) :
      Reordered (list (before ++ v :: after)) (list (before ++ w :: after))
  | entry (before after : Dict Value) (key : Text) {v w : Value} (h : Reordered v w) :
      Reordered (.map (before ++ (key, v) :: after)) (.map (before ++ (key, w) :: after))
  | trans {v w u : Value} (hvw : Reordered v w) (hwu : Reordered w u) : Reordered v u

namespace Reordered

variable {v w : Value} (h : Reordered v w)
include h

theorem wellFormed (hv : v.WellFormed) : w.WellFormed := by
  induction h with
  | map h =>
    rw [wellFormed_map] at hv ⊢
    exact ⟨(h.map Prod.fst).nodup_iff.mp hv.1,
      fun entry hentry => hv.2 entry (h.mem_iff.mpr hentry)⟩
  | item before after _ ih =>
    simp only [wellFormed_list, List.forall_mem_append, List.forall_mem_cons] at hv ⊢
    exact ⟨hv.1, ih hv.2.1, hv.2.2⟩
  | entry before after key _ ih =>
    simp only [wellFormed_map, List.forall_mem_append, List.forall_mem_cons, Dict.keys,
      List.map_append, List.map_cons] at hv ⊢
    exact ⟨hv.1, hv.2.1, ih hv.2.2.1, hv.2.2.2⟩
  | trans _ _ hfirst hsecond => exact hsecond (hfirst hv)

/-- A reordered value is equal to the same values. -/
theorem equals_eq (u : Value) : v.equals u = w.equals u := by
  induction h generalizing u with
  | @map as bs h =>
    cases u with
    | map cs =>
      rw [Bool.eq_iff_iff, equals_map, equals_map, h.length_eq]
      exact and_congr_right fun _ =>
        forall_congr' fun entry => imp_congr_left h.mem_iff
    | _ => rfl
  | @item before after v w _ ih =>
    cases u with
    | list cs =>
      rw [equals, equals]
      induction before generalizing cs with
      | nil => cases cs <;> simp [equalItems, ih]
      | cons a before ihbefore => cases cs <;> simp [equalItems, ihbefore]
    | _ => rfl
  | @entry before after key v w _ ih =>
    cases u with
    | map cs =>
      have hentries : equalEntries (before ++ (key, v) :: after) cs =
          equalEntries (before ++ (key, w) :: after) cs := by
        induction before with
        | nil => simp [equalEntries, ih]
        | cons a before ihbefore => simp [equalEntries, ihbefore]
      rw [equals, equals, hentries]
      simp
    | _ => rfl
  | trans _ _ hfirst hsecond => exact (hfirst u).trans (hsecond u)

end Reordered

/-! ## The laws together -/

/-- Equality is symmetric and transitive, a value is equal to itself exactly if no undefined number
stands in it, and the entries of the dictionaries in a value can be reordered on either side without
a change. -/
theorem equals_partialEquivalence {v w : Value} (hv : v.WellFormed) (hw : w.WellFormed) :
    v.equals w = w.equals v ∧
    (∀ u, v.equals w = true → w.equals u = true → v.equals u = true) ∧
    (v.equals v = true ↔ ¬ v.HasNaN) ∧
    ∀ v', v.Reordered v' → v'.WellFormed ∧ v.equals w = v'.equals w ∧ w.equals v = w.equals v' := by
  refine ⟨equals_comm hv hw, fun u => equals_trans, equals_self_iff hv, fun v' h => ?_⟩
  have hv' := h.wellFormed hv
  have hleft := h.equals_eq w
  refine ⟨hv', hleft, ?_⟩
  calc w.equals v
      = v.equals w := equals_comm hw hv
    _ = v'.equals w := hleft
    _ = w.equals v' := equals_comm hv' hw

/-- A dictionary in a list keeps its equals when its entries are reordered, and the two zeros stand
for each other in it.  With an undefined number in the place of the zero the list is not even equal
to itself. -/
theorem equals_partialEquivalence_zeros :
    (list [map [(['a'], float ⟨0⟩), (['b'], list [null])]]).WellFormed ∧
    (list [map [(['b'], list [null]), (['a'], float ⟨0⟩)]]).equals
      (list [map [(['a'], float ⟨0x8000000000000000⟩), (['b'], list [null])]]) = true ∧
    (list [map [(['a'], float ⟨0x7FF8000000000000⟩), (['b'], list [null])]]).equals
      (list [map [(['a'], float ⟨0x7FF8000000000000⟩), (['b'], list [null])]]) = false := by
  have hwellFormed : ∀ x, (list [map [(['a'], float x), (['b'], list [null])]]).WellFormed := by
    intro x
    simp [WellFormed, WellFormedItems, WellFormedEntries, Dict.keys]
  obtain ⟨-, -, -, hsame⟩ :=
    equals_partialEquivalence (hwellFormed ⟨0⟩) (hwellFormed ⟨0x8000000000000000⟩)
  obtain ⟨-, hreordered, -⟩ := hsame _ (.item [] [] (.map (List.Perm.swap ..)))
  have hundefined := hwellFormed ⟨0x7FF8000000000000⟩
  obtain ⟨-, -, hself, -⟩ := equals_partialEquivalence hundefined hundefined
  refine ⟨hwellFormed ⟨0⟩, hreordered ▸ by decide +kernel, ?_⟩
  rw [← Bool.not_eq_true, hself, not_not]
  exact .item List.mem_cons_self (.entry List.mem_cons_self (.float (by decide)))

end Value

end EscapeOnce
