import EscapeOnce.Element
import EscapeOnce.Proofs.Element.Reading
import EscapeOnce.Proofs.Entity.Lossless
import EscapeOnce.Proofs.Outcome
import Mathlib.Data.List.Forall2
import Mathlib.Data.List.Nodup

/-!
# Attributes survive in an opening tag

What stands between the quotes of an attribute is well-escaped, whatever the value: the text of a
raw value is escaped on its way in, a safe one is escaped already, and an attribute without a value
shows its own name escaped.  A well-escaped text has no double quote and no angle bracket in it, so
no value ends its attribute or its tag, and a reader of opening tags gets back the attributes that
were given (`openTag_reads_back`).

Which attributes these are is a matter of their order and of the class (`Attribute.Effective`).  A
class that is asked for takes the place of the class attribute, if there is one, and the value that
stood there is not even looked at; otherwise it comes last.

An attribute without a value does not show its name as it is: an `&` may stand in a name but not
between quotes (`openTag_reads_back_ampersand`).
-/

namespace EscapeOnce

open Entity Outcome OpeningTag

namespace Attribute

/-! ## The attributes of a tag -/

/-- The attributes of a tag for which a class is asked for, or none. -/
inductive Effective : Option Text → List Attribute → List Attribute → Prop where
  | unchanged (attributes : List Attribute) : Effective none attributes attributes
  /-- The class takes the place of an attribute, whatever the value of that. -/
  | replaced (before after : List Attribute) (value : AttributeValue) (t : Text) :
      Effective (some t) (before ++ ⟨"class".toList, value⟩ :: after) (before ++ ofClass t :: after)
  /-- There is no class to replace. -/
  | added {attributes : List Attribute} (h : ∀ a ∈ attributes, a.name ≠ "class".toList) (t : Text) :
      Effective (some t) attributes (attributes ++ [ofClass t])

theorem map_eq_self_of_forall_ne {attributes : List Attribute}
    (h : ∀ a ∈ attributes, a.name ≠ "class".toList) (t : Text) :
    (attributes.map fun a => if a.isClass then ofClass t else a) = attributes := by
  have hself : ∀ a ∈ attributes, (if a.isClass then ofClass t else a) = id a := fun a ha =>
    if_neg fun hclass => h a ha (of_decide_eq_true hclass)
  rw [List.map_congr_left hself, List.map_id]

/-- Among attributes with different names the class is put in its place. -/
theorem effective_withClass {attributes : List Attribute}
    (h : (attributes.map Attribute.name).Nodup) (cssClass : Option Text) :
    Effective cssClass attributes (withClass cssClass attributes) := by
  cases cssClass with
  | none => exact .unchanged attributes
  | some t =>
    rw [withClass]
    by_cases hany : attributes.any Attribute.isClass = true
    · obtain ⟨⟨name, value⟩, hmem, hclass⟩ := List.any_eq_true.mp hany
      obtain rfl : name = "class".toList := of_decide_eq_true hclass
      obtain ⟨before, after, rfl⟩ := List.append_of_mem hmem
      rw [List.map_append, List.map_cons, List.nodup_middle, List.nodup_cons, List.mem_append] at h
      have hbefore : ∀ a ∈ before, a.name ≠ "class".toList := fun a ha hname =>
        h.1 (Or.inl (List.mem_map.mpr ⟨a, ha, hname⟩))
      have hafter : ∀ a ∈ after, a.name ≠ "class".toList := fun a ha hname =>
        h.1 (Or.inr (List.mem_map.mpr ⟨a, ha, hname⟩))
      rw [if_pos hany, List.map_append, List.map_cons, map_eq_self_of_forall_ne hbefore,
        map_eq_self_of_forall_ne hafter, if_pos hclass]
      exact .replaced before after value t
    · rw [if_neg hany]
      refine .added (fun a ha hname => hany ?_) t
      exact List.any_eq_true.mpr ⟨a, ha, decide_eq_true hname⟩

section

variable {cssClass : Option Text} {attributes effective : List Attribute}
  (h : Effective cssClass attributes effective)
include h

/-- The attributes of a tag are those given and the class. -/
theorem Effective.mem_cases {a : Attribute} (ha : a ∈ effective) :
    a ∈ attributes ∨ ∃ t, cssClass = some t ∧ a = ofClass t := by
  cases h with
  | unchanged => exact Or.inl ha
  | replaced before after value t =>
    rcases List.mem_append.mp ha with ha | ha
    · exact Or.inl (List.mem_append_left _ ha)
    · rcases List.mem_cons.mp ha with rfl | ha
      · exact Or.inr ⟨t, rfl, rfl⟩
      · exact Or.inl (List.mem_append_right _ (List.mem_cons_of_mem _ ha))
  | added hne t =>
    rcases List.mem_append.mp ha with ha | ha
    · exact Or.inl ha
    · exact Or.inr ⟨t, rfl, List.mem_singleton.mp ha⟩

theorem Effective.nodup (hnames : (attributes.map Attribute.name).Nodup) :
    (effective.map Attribute.name).Nodup := by
  cases h with
  | unchanged => exact hnames
  | replaced before after value t =>
    rw [List.map_append, List.map_cons] at hnames ⊢
    exact hnames
  | added hne t =>
    rw [List.map_append, List.map_singleton]
    refine List.nodup_append.mpr ⟨hnames, List.nodup_singleton _, ?_⟩
    intro name hname other hother
    obtain ⟨a, ha, rfl⟩ := List.mem_map.mp hname
    rw [List.mem_singleton.mp hother]
    exact hne a ha

theorem Effective.ofClass_mem {t : Text} (ht : cssClass = some t) : ofClass t ∈ effective := by
  cases h with
  | unchanged => cases ht
  | replaced before after value u =>
    cases ht
    exact List.mem_append_right _ List.mem_cons_self
  | added hne u =>
    cases ht
    exact List.mem_append_right _ List.mem_cons_self

end

/-! ## What an attribute shows -/

/-- The attribute is not written at all. -/
def isLeftOut (a : Attribute) : Bool :=
  match a.value with
  | .value .null => true
  | _ => false

/-- An attribute as it is read: its name, and a text between quotes.  That text is what a raw value
shows once it is decoded, and the buffer of a safe value as it is.  An attribute without a value
shows its name, which needs decoding only if there is an `&` in it. -/
inductive Shows : Attribute → Text × Text → Prop where
  | raw (name : Text) {v : Value} {t : Text} (hraw : v.isSafe = false)
      (htext : v.stringify = .ok (decode t)) : Shows ⟨name, .value v⟩ (name, t)
  | safe (name : Text) (s : SafeText) : Shows ⟨name, .value (.safe s)⟩ (name, s.buffer)
  | valueless {name t : Text} (hdecoded : decode t = name) (hself : '&' ∉ name → t = name) :
      Shows ⟨name, .valueless⟩ (name, t)

/-- The entry that an attribute makes in a tag, if it is not left out. -/
def shown? (a : Attribute) : Except MarkupError (Option (Text × Text)) :=
  match a.value with
  | .value .null => .ok none
  | .value v => v.toSafe.map fun s => some (a.name, s.buffer)
  | .valueless => .ok (some (a.name, escape a.name))

/-- What is written of an entry that there may be or not. -/
def writtenOrEmpty : Option (Text × Text) → Text
  | some entry => writtenEntry entry
  | none => []

theorem render_eq (a : Attribute) : a.render = a.shown?.map writtenOrEmpty := by
  obtain ⟨name, value⟩ := a
  cases value with
  | valueless => rfl
  | value v =>
    cases v with
    | null => rfl
    | _ =>
      rw [render, shown?, map_map]
      rfl

theorem exists_toSafe_eq_error_iff {v : Value} :
    (∃ e, v.toSafe = .error e) ↔ ∃ e, v.stringify = .error e := by
  cases v with
  | safe s => simp [Value.toSafe, Value.stringify]
  | _ => simp only [Value.toSafe, exists_map_eq_error_iff]

theorem exists_shown?_eq_error_iff {a : Attribute} :
    (∃ e, a.shown? = .error e) ↔ ∃ v e, a.value = .value v ∧ v.stringify = .error e := by
  obtain ⟨name, value⟩ := a
  cases value with
  | valueless => simp [shown?]
  | value v =>
    have hvalue : (∃ u e, AttributeValue.value v = .value u ∧ u.stringify = .error e) ↔
        ∃ e, v.stringify = .error e := by simp
    rw [hvalue]
    cases v with
    | null => simp [shown?, Value.stringify]
    | _ => simp only [shown?, exists_map_eq_error_iff, exists_toSafe_eq_error_iff]

theorem shown?_eq_none_iff {a : Attribute} : a.shown? = .ok none ↔ a.isLeftOut = true := by
  obtain ⟨name, value⟩ := a
  cases value with
  | valueless => simp [shown?, isLeftOut]
  | value v => cases v <;> simp [shown?, isLeftOut, map_eq_ok]

/-- An entry holds the escaped name of an attribute without a value, the buffer of a safe value, or
the escaped text of a raw one. -/
theorem shown?_cases {a : Attribute} {entry : Text × Text} (h : a.shown? = .ok (some entry)) :
    a.value = .valueless ∧ entry = (a.name, escape a.name) ∨
    (∃ s, a.value = .value (.safe s) ∧ entry = (a.name, s.buffer)) ∨
    ∃ v t, a.value = .value v ∧ v.isSafe = false ∧ v.stringify = .ok t ∧
      entry = (a.name, escape t) := by
  obtain ⟨name, value⟩ := a
  cases value with
  | valueless =>
    cases h
    exact Or.inl ⟨rfl, rfl⟩
  | value v =>
    cases v with
    | null => cases h
    | safe s =>
      cases h
      exact Or.inr (Or.inl ⟨s, rfl, rfl⟩)
    | _ =>
      simp only [shown?, Value.toSafe, map_map] at h
      obtain ⟨t, ht, hentry⟩ := map_eq_ok.mp h
      exact Or.inr (Or.inr ⟨_, t, rfl, rfl, ht, (Option.some.inj hentry).symm⟩)

theorem shows_of_shown?_eq_some {a : Attribute} {entry : Text × Text}
    (h : a.shown? = .ok (some entry)) (hname : IsName a.name) : a.Shows entry := by
  obtain ⟨name, value⟩ := a
  rcases shown?_cases h with ⟨rfl, rfl⟩ | ⟨s, rfl, rfl⟩ | ⟨v, t, rfl, hraw, ht, rfl⟩
  · refine .valueless (decode_escape name) fun hamp => escape_eq_self fun c hc => ?_
    have hpart : isDelimiter c = false := hname.2 c hc
    refine ⟨?_, ?_, ?_, ?_⟩ <;> rintro rfl
    · exact hamp hc
    all_goals exact absurd hpart (by decide)
  · exact .safe name s
  · exact .raw name hraw (ht.trans (congrArg Except.ok (decode_escape t).symm))

theorem wellEscaped_of_shown?_eq_some {a : Attribute} {entry : Text × Text}
    (h : a.shown? = .ok (some entry))
    (hsafe : ∀ s, a.value = .value (.safe s) → WellEscaped s.buffer) :
    WellEscaped entry.2 := by
  rcases shown?_cases h with ⟨-, rfl⟩ | ⟨s, hs, rfl⟩ | ⟨v, t, -, -, -, rfl⟩
  · exact wellEscaped_escape a.name
  · exact hsafe s hs
  · exact wellEscaped_escape t

theorem fst_of_shows {a : Attribute} {entry : Text × Text} (h : a.Shows entry) :
    entry.1 = a.name := by
  cases h <;> rfl

/-- What is written of attributes can stand in a tag. -/
theorem isName_and_wellEscaped_of_mem {attributes : List Attribute}
    {results : List (Option (Text × Text))} (h : attributes.mapM shown? = .ok results)
    (hnames : ∀ a ∈ attributes, IsName a.name)
    (hsafe : ∀ a ∈ attributes, ∀ s, a.value = .value (.safe s) → WellEscaped s.buffer)
    {entry : Text × Text} (hentry : entry ∈ results.filterMap id) :
    IsName entry.1 ∧ WellEscaped entry.2 := by
  obtain ⟨a, ha, hresult⟩ :=
    exists_eq_ok_of_mem_results h (show some entry ∈ results by simpa using hentry)
  refine ⟨?_, wellEscaped_of_shown?_eq_some hresult (hsafe a ha)⟩
  rw [fst_of_shows (shows_of_shown?_eq_some hresult (hnames a ha))]
  exact hnames a ha

/-- The entries of a tag show its attributes one by one, but for those that are left out. -/
theorem forall₂_shows {attributes : List Attribute} {results : List (Option (Text × Text))}
    (h : attributes.mapM shown? = .ok results) (hnames : ∀ a ∈ attributes, IsName a.name) :
    List.Forall₂ Shows (attributes.filter fun a => !a.isLeftOut) (results.filterMap id) := by
  have hentries :
      List.Forall₂ (fun a result => IsName a.name ∧ a.shown? = .ok result) attributes results :=
    (List.forall₂_and_left _ _).mpr ⟨hnames, mapM_eq_ok_iff.mp h⟩
  clear h hnames
  induction hentries with
  | nil => exact .nil
  | @cons a result attributes results hresult _ ih =>
    cases result with
    | none =>
      have hout : ¬ (!a.isLeftOut) = true := by
        rw [shown?_eq_none_iff.mp hresult.2]
        decide
      rw [List.filter_cons_of_neg (p := fun a : Attribute => !a.isLeftOut) hout]
      exact ih
    | some entry =>
      have hwritten : (!a.isLeftOut) = true := by
        rw [Bool.not_eq_true', ← Bool.not_eq_true, ← shown?_eq_none_iff, hresult.2]
        simp
      rw [List.filter_cons_of_pos (p := fun a : Attribute => !a.isLeftOut) hwritten]
      exact .cons (shows_of_shown?_eq_some hresult.2 hresult.1) ih

theorem map_fst_of_forall₂_shows {attributes : List Attribute} {entries : List (Text × Text)}
    (h : List.Forall₂ Shows attributes entries) :
    entries.map Prod.fst = attributes.map Attribute.name := by
  induction h with
  | nil => rfl
  | cons hshows _ ih => rw [List.map_cons, List.map_cons, fst_of_shows hshows, ih]

end Attribute

/-! ## The whole tag -/

namespace SafeText

theorem flatten_map_writtenOrEmpty (results : List (Option (Text × Text))) :
    (results.map Attribute.writtenOrEmpty).flatten =
      ((results.filterMap id).map writtenEntry).flatten := by
  induction results with
  | nil => rfl
  | cons result results ih =>
    rw [List.map_cons, List.flatten_cons, ih]
    cases result <;> rfl

theorem openTag_eq (tag : Text) (attributes : List Attribute) (cssClass : Option Text)
    (selfClosing : Bool) :
    openTag tag attributes cssClass selfClosing =
      ((Attribute.withClass cssClass attributes).mapM Attribute.shown?).map fun results =>
        trusted (OpeningTag.written ⟨tag, results.filterMap id, selfClosing⟩) := by
  have hrender : Attribute.render = fun a => a.shown?.map Attribute.writtenOrEmpty :=
    funext Attribute.render_eq
  rw [openTag, hrender, mapM_map_eq, bind_map]
  cases (Attribute.withClass cssClass attributes).mapM Attribute.shown? with
  | error e => rfl
  | ok results =>
    refine congrArg (fun t => Except.ok (trusted t)) ?_
    rw [flatten_map_writtenOrEmpty]
    rfl

theorem isName_class : IsName "class".toList := by decide

/-- The opening tag of an element has no result exactly if one of its attributes has no text; of an
attribute that the class replaces nothing is asked.  Any other result is one tag, and what is read
of it is its name and its attributes, in order and but for those that are null: each with a
well-escaped text that shows its value.  If a class is asked for, there is one class attribute. -/
theorem openTag_reads_back {tag : Text} {attributes : List Attribute} (htag : IsName tag)
    (hnames : ∀ a ∈ attributes, IsName a.name) (hdistinct : (attributes.map Attribute.name).Nodup)
    (hsafe : ∀ a ∈ attributes, ∀ s, a.value = .value (.safe s) → WellEscaped s.buffer)
    (cssClass : Option Text) (selfClosing : Bool) :
    ∃ effective, Attribute.Effective cssClass attributes effective ∧
      ((∃ e, openTag tag attributes cssClass selfClosing = .error e) ↔
        ∃ a ∈ effective, ∃ v e, a.value = .value v ∧ v.stringify = .error e) ∧
      ∀ s, openTag tag attributes cssClass selfClosing = .ok s →
        ∃ entries, OpeningTag.read? s.buffer = some ⟨tag, entries, selfClosing⟩ ∧
          List.Forall₂ Attribute.Shows (effective.filter fun a => !a.isLeftOut) entries ∧
          (∀ entry ∈ entries, WellEscaped entry.2) ∧
          (∃ inside, s.buffer = '<' :: inside ++ ['>'] ∧ ∀ c ∈ inside, c ≠ '<' ∧ c ≠ '>') ∧
          ∀ t, cssClass = some t → (entries.map Prod.fst).count "class".toList = 1 := by
  have heffective := Attribute.effective_withClass hdistinct cssClass
  refine ⟨Attribute.withClass cssClass attributes, heffective, ?_, fun s hs => ?_⟩
  · rw [openTag_eq, exists_map_eq_error_iff, exists_mapM_eq_error_iff]
    simp only [Attribute.exists_shown?_eq_error_iff]
  rw [openTag_eq] at hs
  obtain ⟨results, hresults, rfl⟩ := map_eq_ok.mp hs
  have hisName : ∀ a ∈ Attribute.withClass cssClass attributes, IsName a.name := by
    intro a ha
    rcases heffective.mem_cases ha with ha | ⟨t, -, rfl⟩
    · exact hnames a ha
    · exact isName_class
  have heffectiveSafe : ∀ a ∈ Attribute.withClass cssClass attributes,
      ∀ s, a.value = .value (.safe s) → WellEscaped s.buffer := by
    intro a ha s hs
    rcases heffective.mem_cases ha with ha | ⟨t, -, rfl⟩
    · exact hsafe a ha s hs
    · cases hs
  have hshows := Attribute.forall₂_shows hresults hisName
  have hwhole : ∀ entry ∈ results.filterMap id, IsName entry.1 ∧ WellEscaped entry.2 :=
    fun entry hentry =>
      Attribute.isName_and_wellEscaped_of_mem hresults hisName heffectiveSafe hentry
  refine ⟨results.filterMap id, ?_, hshows, fun entry hentry => (hwhole entry hentry).2, ?_,
    fun t ht => ?_⟩
  · exact read?_written htag fun entry hentry =>
      ⟨(hwhole entry hentry).1, fun hquote => ((hwhole entry hentry).2.1 _ hquote).2.2 rfl⟩
  · exact exists_inside_written htag fun entry hentry =>
      ⟨(hwhole entry hentry).1, fun c hc => ((hwhole entry hentry).2.1 c hc).imp_right And.left⟩
  · rw [Attribute.map_fst_of_forall₂_shows hshows]
    refine List.count_eq_one_of_mem ((heffective.nodup hdistinct).sublist ?_) ?_
    · exact List.filter_sublist.map Attribute.name
    · exact List.mem_map.mpr ⟨Attribute.ofClass t,
        List.mem_filter.mpr ⟨heffective.ofClass_mem ht, rfl⟩, rfl⟩

/-- A value that would end its tag, a safe one, an attribute without a value, and a class in the
place of a null. -/
theorem openTag_reads_back_quotes :
    openTag ['a'] [⟨"title".toList, .value (.str "\">".toList)⟩, ⟨"class".toList, .value .null⟩,
      ⟨"href".toList, .value (.safe (escape ['&']))⟩, ⟨"x".toList, .valueless⟩] (some ['c']) false =
        .ok (trusted "<a title=\"&quot;&gt;\" class=\"c\" href=\"&amp;\" x=\"x\">".toList) ∧
    ∃ entries,
      OpeningTag.read? "<a title=\"&quot;&gt;\" class=\"c\" href=\"&amp;\" x=\"x\">".toList =
        some ⟨['a'], entries, false⟩ ∧
      (∀ entry ∈ entries, WellEscaped entry.2) ∧
      (entries.map Prod.fst).count "class".toList = 1 := by
  have hsafe : ∀ a ∈ ([⟨"title".toList, .value (.str "\">".toList)⟩, ⟨"class".toList, .value .null⟩,
      ⟨"href".toList, .value (.safe (escape ['&']))⟩, ⟨"x".toList, .valueless⟩] : List Attribute),
      ∀ s, a.value = .value (.safe s) → WellEscaped s.buffer := by
    simp only [List.forall_mem_cons, List.not_mem_nil, IsEmpty.forall_iff, implies_true, and_true]
    refine ⟨?_, ?_, ?_, ?_⟩ <;> rintro s ⟨⟩
    exact wellEscaped_escape ['&']
  have htag : IsName ['a'] := by decide
  obtain ⟨effective, -, -, hread⟩ :=
    openTag_reads_back htag (by decide) (by decide) hsafe (some ['c']) false
  refine ⟨rfl, ?_⟩
  obtain ⟨entries, hentries, -, hwhole, -, hclass⟩ := hread _ rfl
  exact ⟨entries, hentries, hwhole, hclass ['c'] rfl⟩

/-- What stands between the quotes of an attribute without a value is not always its name. -/
theorem openTag_reads_back_ampersand :
    IsName ['a'] ∧ IsName "a&b".toList ∧
    openTag ['a'] [⟨"a&b".toList, .valueless⟩] none false =
      .ok (trusted "<a a&b=\"a&amp;b\">".toList) ∧
    OpeningTag.read? "<a a&b=\"a&amp;b\">".toList =
      some ⟨['a'], [("a&b".toList, "a&amp;b".toList)], false⟩ ∧
    "a&amp;b".toList ≠ "a&b".toList := by
  have hread : OpeningTag.read?
      (OpeningTag.written ⟨['a'], [("a&b".toList, "a&amp;b".toList)], false⟩) = _ :=
    read?_written (by decide) (by decide)
  exact ⟨by decide, by decide, rfl, hread, by decide⟩

end SafeText

end EscapeOnce
