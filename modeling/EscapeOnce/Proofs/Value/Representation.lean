import EscapeOnce.Proofs.Number.Numeral
import EscapeOnce.Proofs.Outcome
import EscapeOnce.Proofs.Text.Unquoting
import EscapeOnce.Proofs.Value.OfJson

/-!
# The diagnostic form is unambiguous

A value that is no floating-point number, no object, and holds neither can be told from every other
such value by its diagnostic form (`Value.representation_unambiguous`).  Whatever a text in it
holds, it cannot pass for the end of the text, for a separator or for a value of another kind.

Three facts carry the proof.  The first character of a form gives its kind away (`Shape.ofFirst?`).
The form of a leaf says where it ends: a quoted text by its closing quote, and an integer by the
first character that is no digit.  And the items between brackets can be told apart one after the
other if each of them can, since none begins like the closing bracket (`bracketed_append_inj`).
Only an integer needs to know what follows it; in a list and in a dictionary that is a comma or a
bracket, so `Delimits` asks of what follows a form only that it does not begin with a digit.
-/

namespace EscapeOnce.Value

open Text

/-- The value holds no floating-point number and no object, at any depth. -/
inductive IsPlain : Value → Prop
  | null : IsPlain null
  | bool (b : Bool) : IsPlain (bool b)
  | int (i : Int64) : IsPlain (int i)
  | str (t : Text) : IsPlain (str t)
  | bytes (b : List UInt8) : IsPlain (bytes b)
  | safe (s : SafeText) : IsPlain (safe s)
  | list {items : List Value} (h : ∀ v ∈ items, IsPlain v) : IsPlain (list items)
  | map {entries : Dict Value} (h : ∀ entry ∈ entries, IsPlain entry.2) : IsPlain (map entries)

/-! ## Every plain value has a form -/

/-- The form of an entry of a dictionary. -/
def entryRepresentation (entry : Text × Value) : Except MarkupError Text :=
  entry.2.representation.map fun form => entry.1.quoted ++ [':', ' '] ++ form

theorem representations_eq_mapM (items : List Value) :
    representations items = items.mapM representation := by
  induction items with
  | nil => rw [representations]; rfl
  | cons v items ih => rw [representations, ih, List.mapM_cons]

theorem entryRepresentations_eq_mapM (entries : Dict Value) :
    entryRepresentations entries = entries.mapM entryRepresentation := by
  induction entries with
  | nil => rw [entryRepresentations]; rfl
  | cons entry entries ih =>
    rw [entryRepresentations, ih, List.mapM_cons, entryRepresentation, Outcome.bind_map]

theorem representation_list_eq_ok {items : List Value} {form : Text} :
    (list items).representation = .ok form ↔
      ∃ parts, List.Forall₂ (fun v part => v.representation = .ok part) items parts ∧
        bracketed '[' ']' parts = form := by
  rw [representation, representations_eq_mapM, Outcome.map_eq_ok]
  simp only [Outcome.mapM_eq_ok_iff]

theorem representation_map_eq_ok {entries : Dict Value} {form : Text} :
    (map entries).representation = .ok form ↔
      ∃ parts, List.Forall₂ (fun entry part => entryRepresentation entry = .ok part) entries parts ∧
        bracketed '{' '}' parts = form := by
  rw [representation, entryRepresentations_eq_mapM, Outcome.map_eq_ok]
  simp only [Outcome.mapM_eq_ok_iff]

theorem IsPlain.representation_eq_ok {v : Value} (h : v.IsPlain) :
    ∃ t, v.representation = .ok t := by
  induction h with
  | null | bool | int | str | bytes | safe => exact ⟨_, by rw [representation]⟩
  | list _ ih =>
    obtain ⟨parts, hparts⟩ := representations_eq_ok ih
    exact ⟨_, by rw [representation, hparts]; rfl⟩
  | map _ ih =>
    obtain ⟨parts, hparts⟩ := entryRepresentations_eq_ok ih
    exact ⟨_, by rw [representation, hparts]; rfl⟩

/-! ## The kind of a form -/

/-- The kinds of plain values, as far as their forms can be told apart by the first character. -/
inductive Shape where
  | null | bool | int | str | bytes | safe | list | map
  deriving DecidableEq

/-- The kind of a value, if it is plain. -/
def shape? : Value → Option Shape
  | null => some .null
  | bool _ => some .bool
  | int _ => some .int
  | str _ => some .str
  | bytes _ => some .bytes
  | safe _ => some .safe
  | list _ => some .list
  | map _ => some .map
  | float _ | object _ => none

/-- The kind of the values whose forms a character begins; the closing brackets begin none. -/
def Shape.ofFirst? (c : Char) : Option Shape :=
  match c with
  | 'n' => some .null
  | 't' => some .bool
  | 'f' => some .bool
  | '"' => some .str
  | 'b' => some .bytes
  | '<' => some .safe
  | '[' => some .list
  | '{' => some .map
  | ']' => none
  | '}' => none
  | _ => some .int

theorem Shape.ofFirst?_of_isDigit {c : Char} (h : c.isDigit = true) : ofFirst? c = some int := by
  unfold ofFirst?
  split <;> first | rfl | exact absurd h (by decide)

theorem exists_head?_signedDecimal (i : Int) (rest : Text) :
    ∃ c, (Numeral.signedDecimal i ++ rest).head? = some c ∧ Shape.ofFirst? c = some .int := by
  rw [Numeral.signedDecimal]
  split
  · exact ⟨'-', rfl, rfl⟩
  · obtain ⟨c, digits, hdecimal⟩ := List.exists_cons_of_ne_nil (Numeral.decimal_ne_nil i.natAbs)
    rw [hdecimal]
    exact ⟨c, rfl, Shape.ofFirst?_of_isDigit
      (Numeral.isDigit_of_mem_decimal (hdecimal ▸ List.mem_cons_self))⟩

section

variable {v : Value} (hv : v.IsPlain) {form : Text} (h : v.representation = .ok form) (rest : Text)
include hv h

/-- The first character of a form gives the kind of the value away. -/
theorem IsPlain.exists_head? :
    ∃ c, (form ++ rest).head? = some c ∧ Shape.ofFirst? c = v.shape? := by
  cases hv with
  | null | str | bytes | safe =>
    rw [representation] at h
    cases h
    exact ⟨_, rfl, rfl⟩
  | bool b =>
    rw [representation] at h
    cases h
    cases b <;> exact ⟨_, rfl, rfl⟩
  | int i =>
    rw [representation] at h
    cases h
    exact exists_head?_signedDecimal _ rest
  | list =>
    obtain ⟨parts, -, rfl⟩ := representation_list_eq_ok.mp h
    exact ⟨_, rfl, rfl⟩
  | map =>
    obtain ⟨parts, -, rfl⟩ := representation_map_eq_ok.mp h
    exact ⟨_, rfl, rfl⟩

/-- No form begins like a closing bracket. -/
theorem IsPlain.head?_ne {closing : Char} (hclosing : Shape.ofFirst? closing = none) :
    (form ++ rest).head? ≠ some closing := by
  intro hhead
  obtain ⟨c, hc, hkind⟩ := hv.exists_head? h rest
  rw [hhead] at hc
  cases hc
  rw [hclosing] at hkind
  cases hv <;> cases hkind

/-- Values with the same form, whatever follows it, are of one kind. -/
theorem IsPlain.shape?_eq {w : Value} (hw : w.IsPlain) {other after : Text}
    (hother : w.representation = .ok other) (heq : form ++ rest = other ++ after) :
    v.shape? = w.shape? := by
  obtain ⟨c, hc, hkind⟩ := hv.exists_head? h rest
  obtain ⟨d, hd, hkind'⟩ := hw.exists_head? hother after
  rw [← heq, hc] at hd
  cases hd
  exact hkind.symm.trans hkind'

end

/-! ## Forms that say where they end -/

section Delimits

variable {α ε : Type} {P : α → Prop} {f : α → Except ε Text} {opening closing : Char}

/-- The form of a thing can be told from the forms of all things with the property `P`, and says
where it ends, if what follows it does not begin with a digit. -/
def Delimits (P : α → Prop) (f : α → Except ε Text) (a : α) : Prop :=
  ∀ b, P b → ∀ {s t rest other : Text}, f a = .ok s → f b = .ok t →
    Begins (·.isDigit = false) rest → Begins (·.isDigit = false) other →
    s ++ rest = t ++ other → a = b ∧ rest = other

/-- The parts behind the first one, up to the closing bracket. -/
def continued (closing : Char) (parts : List Text) : Text :=
  parts.flatMap ([',', ' '] ++ ·) ++ [closing]

theorem bracketed_cons (first : Text) (others : List Text) :
    bracketed opening closing (first :: others) =
      opening :: (first ++ continued closing others) := by
  have hjoin : [',', ' '].intercalate (first :: others) =
      first ++ others.flatMap ([',', ' '] ++ ·) := by
    induction others generalizing first with
    | nil => simp
    | cons second others ih =>
      rw [List.intercalate_cons_cons, ih, List.flatMap_cons]
      simp
  rw [bracketed, hjoin, continued]
  simp

/-- A separator or a bracket follows a part, and neither is a digit. -/
theorem begins_continued (hclosing : closing.isDigit = false) (parts : List Text) (rest : Text) :
    Begins (·.isDigit = false) (continued closing parts ++ rest) := by
  cases parts with
  | nil => exact begins_cons.mpr hclosing
  | cons part parts => exact begins_cons.mpr (by decide)

variable {as bs : List α} {ss ts : List Text} {rest other : Text}
  (hs : List.Forall₂ (fun a s => f a = .ok s) as ss)
  (ht : List.Forall₂ (fun b t => f b = .ok t) bs ts)
  (hdelimits : ∀ a ∈ as, Delimits P f a) (hclosing : closing.isDigit = false)
include hs ht hdelimits hclosing

/-- The parts behind a first one can be told apart: a comma announces another one, and the bracket
the end. -/
theorem continued_append_inj (hcomma : closing ≠ ',') (hbs : ∀ b ∈ bs, P b)
    (h : continued closing ss ++ rest = continued closing ts ++ other) :
    as = bs ∧ rest = other := by
  induction hs generalizing bs ts with
  | nil =>
    cases ht with
    | nil => exact ⟨rfl, (List.cons.inj h).2⟩
    | cons _ _ => exact absurd (List.cons.inj h).1 hcomma
  | @cons a s as ss ha has ih =>
    cases ht with
    | nil => exact absurd (List.cons.inj h).1.symm hcomma
    | @cons b t bs ts hb ht =>
      obtain ⟨ha', has'⟩ := List.forall_mem_cons.mp hdelimits
      obtain ⟨hb', hbs'⟩ := List.forall_mem_cons.mp hbs
      have hparts : s ++ (continued closing ss ++ rest) = t ++ (continued closing ts ++ other) := by
        simpa [continued] using h
      obtain ⟨rfl, hrest⟩ := ha' b hb' ha hb (begins_continued hclosing ss rest)
        (begins_continued hclosing ts other) hparts
      obtain ⟨rfl, hend⟩ := ih ht has' hbs' hrest
      exact ⟨rfl, hend⟩

/-- If each part can be told from every other, and none begins like the closing bracket, the parts
between brackets can be told apart. -/
theorem bracketed_append_inj (hcomma : closing ≠ ',') (has : ∀ a ∈ as, P a) (hbs : ∀ b ∈ bs, P b)
    (hhead : ∀ a, P a → ∀ s, f a = .ok s → ∀ rest, (s ++ rest).head? ≠ some closing)
    (h : bracketed opening closing ss ++ rest = bracketed opening closing ts ++ other) :
    as = bs ∧ rest = other := by
  cases hs with
  | nil =>
    cases ht with
    | nil => exact ⟨rfl, by simpa [bracketed] using h⟩
    | @cons b t bs ts hb ht =>
      rw [bracketed_cons, List.cons_append, List.append_assoc] at h
      have hfirst := congrArg List.head? (List.cons.inj h).2
      exact absurd hfirst.symm (hhead b (hbs b List.mem_cons_self) t hb _)
  | @cons a s as ss ha hs =>
    rw [bracketed_cons, List.cons_append, List.append_assoc] at h
    have ha' := has a List.mem_cons_self
    cases ht with
    | nil =>
      have hfirst := congrArg List.head? (List.cons.inj h).2
      exact absurd hfirst (hhead a ha' s ha _)
    | @cons b t bs ts hb ht =>
      rw [bracketed_cons, List.cons_append, List.append_assoc] at h
      have hall : continued closing (s :: ss) ++ rest = continued closing (t :: ts) ++ other := by
        simpa [continued] using h
      exact continued_append_inj (.cons ha hs) (.cons hb ht) hdelimits hclosing hcomma hbs hall

end Delimits

/-! ## Integers -/

theorem decimal_append_inj {m n : Nat} {rest other : Text}
    (hrest : Begins (·.isDigit = false) rest) (hother : Begins (·.isDigit = false) other)
    (h : Numeral.decimal m ++ rest = Numeral.decimal n ++ other) : m = n ∧ rest = other := by
  have hdigits : ∀ n, ∀ c ∈ Numeral.decimal n, c.isDigit = true :=
    fun n c => Numeral.isDigit_of_mem_decimal
  have hleading := congrArg Numeral.leadingDigits h
  have hafter := congrArg Numeral.afterDigits h
  rw [Numeral.leadingDigits_append (hdigits m) hrest,
    Numeral.leadingDigits_append (hdigits n) hother] at hleading
  rw [Numeral.afterDigits_append (hdigits m) hrest,
    Numeral.afterDigits_append (hdigits n) hother] at hafter
  have hvalue := congrArg Numeral.valueOf hleading
  rw [Numeral.valueOf_decimal, Numeral.valueOf_decimal] at hvalue
  exact ⟨hvalue, hafter⟩

theorem cons_minus_ne_decimal_append (n : Nat) (t u : Text) :
    '-' :: t ≠ Numeral.decimal n ++ u := by
  intro h
  obtain ⟨c, digits, hform⟩ := List.exists_cons_of_ne_nil (Numeral.decimal_ne_nil n)
  rw [hform] at h
  have hdigit : c.isDigit = true := Numeral.isDigit_of_mem_decimal (hform ▸ List.mem_cons_self)
  rw [← (List.cons.inj h).1] at hdigit
  cases hdigit

/-- A signed integer ends where the first character stands that is no digit. -/
theorem signedDecimal_append_inj {i j : Int} {rest other : Text}
    (hrest : Begins (·.isDigit = false) rest) (hother : Begins (·.isDigit = false) other)
    (h : Numeral.signedDecimal i ++ rest = Numeral.signedDecimal j ++ other) :
    i = j ∧ rest = other := by
  rw [Numeral.signedDecimal, Numeral.signedDecimal] at h
  split at h <;> split at h
  · obtain ⟨habs, hend⟩ := decimal_append_inj hrest hother (List.cons.inj h).2
    exact ⟨by omega, hend⟩
  · exact absurd h (cons_minus_ne_decimal_append _ _ _)
  · exact absurd h.symm (cons_minus_ne_decimal_append _ _ _)
  · obtain ⟨habs, hend⟩ := decimal_append_inj hrest hother h
    exact ⟨by omega, hend⟩

/-! ## All values -/

/-- The key of an entry is quoted, so the form of the value starts where the key and the colon
end. -/
theorem delimits_entryRepresentation {entry : Text × Value}
    (h : Delimits IsPlain representation entry.2) :
    Delimits (fun entry => IsPlain entry.2) entryRepresentation entry := by
  intro e he s t rest other hs ht hrest hother heq
  obtain ⟨form, hform, rfl⟩ := Outcome.map_eq_ok.mp hs
  obtain ⟨form', hform', rfl⟩ := Outcome.map_eq_ok.mp ht
  simp only [List.append_assoc] at heq
  obtain ⟨hkey, hvalue⟩ := quoted_append_inj heq
  obtain ⟨hvalue, hend⟩ := h e.2 he hform hform' hrest hother (List.append_cancel_left hvalue)
  exact ⟨Prod.ext hkey hvalue, hend⟩

theorem head?_entryRepresentation {entry : Text × Value} {form : Text}
    (h : entryRepresentation entry = .ok form) (rest : Text) : (form ++ rest).head? = some '"' := by
  obtain ⟨value, -, rfl⟩ := Outcome.map_eq_ok.mp h
  rfl

/-- Of two kinds the first characters differ, so the form of a plain value has to be told from the
forms of its own kind only. -/
theorem IsPlain.delimits_of_shape {v : Value} (hv : v.IsPlain)
    (h : Delimits (fun w => w.IsPlain ∧ v.shape? = w.shape?) representation v) :
    Delimits IsPlain representation v := by
  intro w hw s t rest other hs ht hrest hother heq
  exact h w ⟨hw, hv.shape?_eq hs rest hw ht heq⟩ hs ht hrest hother heq

theorem delimits_null : Delimits IsPlain representation null := by
  refine IsPlain.null.delimits_of_shape ?_
  rintro w ⟨hw, hkind⟩ s t rest other hs ht - - heq
  cases hw with
  | null =>
    cases hs.symm.trans ht
    exact ⟨rfl, List.append_cancel_left heq⟩
  | _ => cases hkind

theorem delimits_bool (a : Bool) : Delimits IsPlain representation (bool a) := by
  refine (IsPlain.bool a).delimits_of_shape ?_
  rintro w ⟨hw, hkind⟩ s t rest other hs ht - - heq
  cases hw with
  | bool b =>
    rw [representation] at hs ht
    cases hs
    cases ht
    cases a <;> cases b
    · exact ⟨rfl, List.append_cancel_left heq⟩
    · cases heq
    · cases heq
    · exact ⟨rfl, List.append_cancel_left heq⟩
  | _ => cases hkind

theorem delimits_int (i : Int64) : Delimits IsPlain representation (int i) := by
  refine (IsPlain.int i).delimits_of_shape ?_
  rintro w ⟨hw, hkind⟩ s t rest other hs ht hrest hother heq
  cases hw with
  | int j =>
    rw [representation] at hs ht
    cases hs
    cases ht
    obtain ⟨hvalue, hend⟩ := signedDecimal_append_inj hrest hother heq
    obtain rfl := Int64.toInt_inj.mp hvalue
    exact ⟨rfl, hend⟩
  | _ => cases hkind

theorem delimits_str (t : Text) : Delimits IsPlain representation (str t) := by
  refine (IsPlain.str t).delimits_of_shape ?_
  rintro w ⟨hw, hkind⟩ s t rest other hs ht - - heq
  cases hw with
  | str u =>
    rw [representation] at hs ht
    cases hs
    cases ht
    obtain ⟨rfl, hend⟩ := quoted_append_inj heq
    exact ⟨rfl, hend⟩
  | _ => cases hkind

theorem delimits_bytes (b : List UInt8) : Delimits IsPlain representation (bytes b) := by
  refine (IsPlain.bytes b).delimits_of_shape ?_
  rintro w ⟨hw, hkind⟩ s t rest other hs ht - - heq
  cases hw with
  | bytes c =>
    rw [representation] at hs ht
    cases hs
    cases ht
    obtain ⟨rfl, hend⟩ := quotedBytes_append_inj heq
    exact ⟨rfl, hend⟩
  | _ => cases hkind

theorem delimits_safe (a : SafeText) : Delimits IsPlain representation (safe a) := by
  refine (IsPlain.safe a).delimits_of_shape ?_
  rintro w ⟨hw, hkind⟩ s t rest other hs ht - - heq
  cases hw with
  | safe b =>
    rw [representation] at hs ht
    cases hs
    cases ht
    obtain ⟨hbuffer, hend⟩ := quoted_between_append_inj heq
    obtain rfl : a = b := congrArg SafeText.trusted hbuffer
    exact ⟨rfl, hend⟩
  | _ => cases hkind

/-- A list whose items can be told apart can be told from every other list. -/
theorem delimits_list {items : List Value} (has : ∀ v ∈ items, v.IsPlain)
    (hdelimits : ∀ v ∈ items, Delimits IsPlain representation v) :
    Delimits IsPlain representation (list items) := by
  refine (IsPlain.list has).delimits_of_shape ?_
  rintro w ⟨hw, hkind⟩ s t rest other hs ht - - heq
  cases hw with
  | list hbs =>
    obtain ⟨ss, hss, rfl⟩ := representation_list_eq_ok.mp hs
    obtain ⟨ts, hts, rfl⟩ := representation_list_eq_ok.mp ht
    have hhead : ∀ v, IsPlain v → ∀ s, v.representation = .ok s → ∀ rest,
        (s ++ rest).head? ≠ some ']' := by
      intro v hv s hs rest
      exact hv.head?_ne hs rest (by decide)
    obtain ⟨rfl, hend⟩ :=
      bracketed_append_inj hss hts hdelimits (by decide) (by decide) has hbs hhead heq
    exact ⟨rfl, hend⟩
  | _ => cases hkind

/-- A dictionary whose values can be told apart can be told from every other dictionary. -/
theorem delimits_map {entries : Dict Value} (has : ∀ entry ∈ entries, IsPlain entry.2)
    (hdelimits : ∀ entry ∈ entries, Delimits IsPlain representation entry.2) :
    Delimits IsPlain representation (map entries) := by
  refine (IsPlain.map has).delimits_of_shape ?_
  rintro w ⟨hw, hkind⟩ s t rest other hs ht - - heq
  cases hw with
  | map hbs =>
    obtain ⟨ss, hss, rfl⟩ := representation_map_eq_ok.mp hs
    obtain ⟨ts, hts, rfl⟩ := representation_map_eq_ok.mp ht
    have hentries : ∀ entry ∈ entries,
        Delimits (fun entry => IsPlain entry.2) entryRepresentation entry :=
      fun entry hentry => delimits_entryRepresentation (hdelimits entry hentry)
    have hhead : ∀ entry : Text × Value, IsPlain entry.2 → ∀ s,
        entryRepresentation entry = .ok s → ∀ rest, (s ++ rest).head? ≠ some '}' := by
      intro entry _ s hs rest
      rw [head?_entryRepresentation hs rest]
      decide
    obtain ⟨rfl, hend⟩ :=
      bracketed_append_inj hss hts hentries (by decide) (by decide) has hbs hhead heq
    exact ⟨rfl, hend⟩
  | _ => cases hkind

/-- The form of a plain value says which value it is and where it ends. -/
theorem IsPlain.delimits {v : Value} (hv : v.IsPlain) : Delimits IsPlain representation v := by
  induction hv with
  | null => exact delimits_null
  | bool b => exact delimits_bool b
  | int i => exact delimits_int i
  | str t => exact delimits_str t
  | bytes b => exact delimits_bytes b
  | safe s => exact delimits_safe s
  | list has ih => exact delimits_list has ih
  | map has ih => exact delimits_map has ih

/-- Plain values have a diagnostic form, and values with the same form are the same, the order of
the entries of dictionaries included. -/
theorem representation_unambiguous {v w : Value} (hv : v.IsPlain) (hw : w.IsPlain) :
    (∃ form, v.representation = .ok form) ∧ (v.representation = w.representation → v = w) := by
  obtain ⟨form, hform⟩ := hv.representation_eq_ok
  refine ⟨⟨form, hform⟩, fun h => ?_⟩
  obtain ⟨hvalue, -⟩ := hv.delimits w hw hform (h ▸ hform) begins_nil begins_nil rfl
  exact hvalue

/-- A text with quotes and a comma in it does not pass for two texts, nor a key with a colon for an
entry. -/
theorem representation_unambiguous_separators :
    (list [str ("a\", \"b".toList)]).representation ≠
      (list [str "a".toList, str "b".toList]).representation ∧
    (map [("a\": null, \"b".toList, null)]).representation ≠
      (map [("a".toList, null), ("b".toList, null)]).representation := by
  have hstrings : ∀ ts : List Text, (list (ts.map str)).IsPlain := by
    intro ts
    refine .list fun v hv => ?_
    obtain ⟨t, -, rfl⟩ := List.mem_map.mp hv
    exact .str t
  have hkeys : ∀ keys : List Text, (map (keys.map (·, null))).IsPlain := by
    intro keys
    refine .map fun entry hentry => ?_
    obtain ⟨key, -, rfl⟩ := List.mem_map.mp hentry
    exact .null
  constructor
  · intro h
    have hsame := (representation_unambiguous (hstrings [_]) (hstrings [_, _])).2 h
    simp at hsame
  · intro h
    have hsame := (representation_unambiguous (hkeys [_]) (hkeys [_, _])).2 h
    simp at hsame

end EscapeOnce.Value
