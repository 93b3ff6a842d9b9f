import EscapeOnce.Proofs.Entity.Lossless
import EscapeOnce.Proofs.Outcome
import EscapeOnce.Proofs.Text.ByteOrder
import EscapeOnce.Proofs.Url.Quoting
import Mathlib.Data.List.Infix
import Mathlib.Data.List.Nodup

/-!
# Addresses with a query

An address is put together from quoted texts and three separators, `?`, `=` and `&`, and none of the
separators is left in a quoted text.  So a reader that cuts at the separators gets the quoted texts
back (`split?_address`), and from them the bytes that they stand for.

In a page the address is escaped as a whole.  Its `&` is the only markup character in it; the path,
which is trusted as it is, is its own escaped form.  So an address with a query is the escaped form
of one text (`withQuery_eq`), and decoding gives that text back.

The parameters come in the order of the bytes of their keys, and those of one key in the order in
which they were given (`StablySorted`).  If no key occurs twice, this order does not depend on how
they were given (`sortParameters_eq_of_perm`).
-/

namespace EscapeOnce.Url

open Entity Outcome

/-! ## The order of the parameters -/

section

variable {α β : Type}

/-- The items in the order of the bytes of their keys; items of one key keep their order. -/
structure StablySorted (items sorted : List (Text × α)) : Prop where
  perm : sorted.Perm items
  ordered : sorted.Pairwise fun a b => (Ord.compare a.1.utf8 b.1.utf8).isLE = true
  stable : ∀ key, (sorted.filter fun item => item.1 = key) = items.filter fun item => item.1 = key

/-- Items with other values under the same keys are in the same order. -/
theorem StablySorted.map {items sorted : List (Text × α)} (h : StablySorted items sorted)
    (f : α → β) :
    StablySorted (items.map fun item => (item.1, f item.2))
      (sorted.map fun item => (item.1, f item.2)) where
  perm := h.perm.map _
  ordered := List.pairwise_map.mpr h.ordered
  stable := fun key => by
    rw [List.filter_map, List.filter_map]
    exact congrArg (List.map _) (h.stable key)

end

theorem atMost_eq (a b : Text) : a.atMost b = (Ord.compare a.utf8 b.utf8).isLE := by
  rw [Text.atMost, Text.compare_eq_compare_utf8]

theorem atMost_trans {a b c : Text} (hab : a.atMost b = true) (hbc : b.atMost c = true) :
    a.atMost c = true := by
  rw [atMost_eq] at hab hbc ⊢
  exact Std.TransCmp.isLE_trans hab hbc

theorem atMost_total (a b : Text) : (a.atMost b || b.atMost a) = true := by
  have hswap : Ord.compare b.utf8 a.utf8 = (Ord.compare a.utf8 b.utf8).swap :=
    Std.OrientedCmp.eq_swap
  rw [atMost_eq, atMost_eq, hswap]
  cases Ord.compare a.utf8 b.utf8 <;> rfl

theorem stablySorted_sortParameters (parameters : List (Text × Value)) :
    StablySorted parameters (sortParameters parameters) := by
  have hperm : (sortParameters parameters).Perm parameters := List.mergeSort_perm ..
  have htrans : ∀ a b c : Text × Value,
      a.1.atMost b.1 = true → b.1.atMost c.1 = true → a.1.atMost c.1 = true :=
    fun _ _ _ => atMost_trans
  have htotal : ∀ a b : Text × Value, (a.1.atMost b.1 || b.1.atMost a.1) = true := fun a b =>
    atMost_total a.1 b.1
  refine ⟨hperm, ?_, fun key => ?_⟩
  · exact (List.pairwise_mergeSort htrans htotal parameters).imp fun h => by rwa [atMost_eq] at h
  · -- the items of one key are in order already, so sorting keeps them as they are
    have hsame : (parameters.filter fun item => item.1 = key).Pairwise
        fun a b => a.1.atMost b.1 = true := by
      refine List.pairwise_of_forall_mem_list fun a ha b hb => ?_
      have hka : a.1 = key := of_decide_eq_true (List.mem_filter.mp ha).2
      have hkb : b.1 = key := of_decide_eq_true (List.mem_filter.mp hb).2
      have hself := atMost_total key key
      rw [hka, hkb]
      rwa [Bool.or_self] at hself
    have hkept := List.sublist_mergeSort htrans htotal hsame List.filter_sublist
    have hfiltered := hkept.filter fun item => item.1 = key
    rw [List.filter_filter] at hfiltered
    simp only [Bool.and_self] at hfiltered
    exact (hfiltered.eq_of_length (hperm.filter _).length_eq.symm).symm

/-- Parameters with different keys are sorted in one way only. -/
theorem sortParameters_eq_of_perm {parameters others : List (Text × Value)}
    (h : others.Perm parameters) (hkeys : (parameters.map Prod.fst).Nodup) :
    sortParameters others = sortParameters parameters := by
  have hothers := stablySorted_sortParameters others
  have hparameters := stablySorted_sortParameters parameters
  refine List.Perm.eq_of_pairwise (fun a b ha hb hab hba => ?_) hothers.ordered hparameters.ordered
    ((hothers.perm.trans h).trans hparameters.perm.symm)
  have hbytes : a.1.utf8 = b.1.utf8 :=
    Std.LawfulEqCmp.eq_of_compare (Std.OrientedCmp.isLE_antisymm hab hba)
  exact List.inj_on_of_nodup_map hkeys (h.subset (hothers.perm.subset ha))
    (hparameters.perm.subset hb)
    (Text.utf8_injective hbytes)

/-! ## The text of an address -/

/-- The text of a value that stands in an address: a null has none. -/
def textOf : Value → Except MarkupError Text
  | .null => .error (.invalidArgument .nullWithoutFallback)
  | v => v.stringify

/-- A parameter as it stands in a query. -/
def written (item : Text × Text) : Text := quoteText item.1 ++ '=' :: quoteText item.2

/-- The address of a path and of the parameters of a query, in their order. -/
def address (path : Text) : List (Text × Text) → Text
  | [] => quoteText path
  | item :: items => quoteText path ++ '?' :: ['&'].intercalate ((item :: items).map written)

theorem quote_eq (v : Value) : quote v none = (textOf v).map quoteText := by
  cases v <;> rfl

theorem parameter_eq (key : Text) (v : Value) :
    parameter key v = ((textOf v).map (Prod.mk key)).map written := by
  rw [parameter, quote_eq]
  cases textOf v <;> rfl

/-- An address in a page is the escaped form of its text. -/
theorem withQuery_eq (path : Value) (parameters : List (Text × Value)) :
    withQuery path parameters =
      textOf path >>= fun p =>
        ((sortParameters parameters).mapM fun item =>
          (textOf item.2).map (Prod.mk item.1)).map fun items => .escape (address p items) := by
  have htrusted : ∀ p, quoteText p = Entity.escape (quoteText p) := fun p =>
    (escape_eq_self (quoted_quoteText p).unmarked).symm
  have hlength := (stablySorted_sortParameters parameters).perm.length_eq
  rw [withQuery, quote_eq, bind_map]
  refine bind_congr fun p _ => ?_
  by_cases hempty : parameters = []
  · subst hempty
    rw [List.eq_nil_of_length_eq_zero hlength]
    exact congrArg (fun t => Except.ok (SafeText.trusted t)) (htrusted p)
  · have htexts : ((sortParameters parameters).mapM fun item => parameter item.1 item.2) =
        ((sortParameters parameters).mapM fun item => (textOf item.2).map (Prod.mk item.1)).map
          (List.map written) := by
      rw [← mapM_map_eq]
      simp only [parameter_eq]
    rw [if_neg (by simpa using hempty), htexts, bind_map]
    cases hitems : (sortParameters parameters).mapM fun item =>
        (textOf item.2).map (Prod.mk item.1) with
    | error e => rfl
    | ok items =>
      have hsame := length_of_mapM_eq_ok hitems
      match items, hsame with
      | [], hsame =>
        rw [List.length_nil, hlength] at hsame
        exact absurd (List.eq_nil_of_length_eq_zero hsame.symm) hempty
      | item :: items, _ =>
        refine congrArg (fun t => Except.ok (SafeText.trusted t)) ?_
        rw [address, escape_append, ← htrusted]
        rfl

/-! ## Reading an address -/

/-- What an address is taken apart into: its path, and the keys and values of its query, if it has
one. -/
structure Pieces where
  path : Text
  parameters : Option (List (Text × Text))

namespace Pieces

/-- Cuts an address at its first question mark, what follows at each `&`, and each of these pieces
at its first equals sign, which it has to have. -/
def split? (t : Text) : Option Pieces :=
  match Text.cutAt? '?' t with
  | none => some ⟨t, none⟩
  | some (path, query) =>
    ((query.splitOn '&').mapM (Text.cutAt? '=')).map fun items => ⟨path, some items⟩

/-- All the pieces. -/
def all (pieces : Pieces) : List Text :=
  pieces.path :: (pieces.parameters.getD []).flatMap fun item => [item.1, item.2]

end Pieces

theorem not_mem_quoteText {c : Char} (hc : ¬ IsUnreserved c) (hpercent : c ≠ '%') (t : Text) :
    c ∉ quoteText t := (quoted_quoteText t).not_mem hc hpercent

theorem cutAt?_eq_none {c : Char} {t : Text} (h : c ∉ t) : Text.cutAt? c t = none := by
  induction t with
  | nil => rfl
  | cons d t ih =>
    obtain ⟨hd, ht⟩ := List.ne_and_not_mem_of_not_mem_cons h
    rw [Text.cutAt?, if_neg hd.symm, ih ht]
    rfl

theorem cutAt?_written (item : Text × Text) :
    Text.cutAt? '=' (written item) = some (quoteText item.1, quoteText item.2) :=
  Text.cutAt?_append_cons (not_mem_quoteText (by decide) (by decide) item.1) _

/-- The quoted texts of an address, not yet put together. -/
def Pieces.quoted (path : Text) (items : List (Text × Text)) : Pieces where
  path := quoteText path
  parameters :=
    if items.isEmpty then none
    else some (items.map fun item => (quoteText item.1, quoteText item.2))

theorem Pieces.quoted_of_mem_all_quoted {path piece : Text} {items : List (Text × Text)}
    (h : piece ∈ (Pieces.quoted path items).all) : Quoted piece := by
  rcases List.mem_cons.mp h with rfl | h
  · exact quoted_quoteText path
  · cases items with
    | nil => exact absurd h List.not_mem_nil
    | cons item items =>
      obtain ⟨pair, hpair, hpiece⟩ := List.mem_flatMap.mp h
      obtain ⟨item, -, rfl⟩ := List.mem_map.mp hpair
      rcases List.mem_pair.mp hpiece with rfl | rfl
      · exact quoted_quoteText item.1
      · exact quoted_quoteText item.2

/-- The pieces of an address stand for the bytes of its texts. -/
theorem Pieces.unquote_quoted (path : Text) (items : List (Text × Text)) :
    unquote (Pieces.quoted path items).path = path.utf8 ∧
    (Pieces.quoted path items).parameters.map
        (List.map fun item => (unquote item.1, unquote item.2)) =
      if items.isEmpty then none else some (items.map fun item => (item.1.utf8, item.2.utf8)) := by
  refine ⟨unquote_quoteText path, ?_⟩
  rw [Pieces.quoted]
  split
  · rfl
  · simp only [Option.map_some, List.map_map, Function.comp_def, unquote_quoteText]

/-- An address is cut into the quoted texts that it was put together from. -/
theorem split?_address (path : Text) (items : List (Text × Text)) :
    Pieces.split? (address path items) = some (Pieces.quoted path items) := by
  have hmark : '?' ∉ quoteText path := not_mem_quoteText (by decide) (by decide) path
  cases items with
  | nil => rw [address, Pieces.split?, cutAt?_eq_none hmark]; rfl
  | cons item items =>
    have hamp : ∀ t ∈ (item :: items).map written, '&' ∉ t := by
      intro t ht
      obtain ⟨item, -, rfl⟩ := List.mem_map.mp ht
      simp only [written, List.mem_append, List.mem_cons, not_or]
      exact ⟨not_mem_quoteText (by decide) (by decide) _, by decide,
        not_mem_quoteText (by decide) (by decide) _⟩
    have hcuts : ∀ items : List (Text × Text), (items.map written).mapM (Text.cutAt? '=') =
        some (items.map fun item => (quoteText item.1, quoteText item.2)) := by
      intro items
      induction items with
      | nil => rfl
      | cons item items ih =>
        rw [List.map_cons, List.mapM_cons, cutAt?_written, ih]
        rfl
    rw [address, Pieces.split?, Text.cutAt?_append_cons hmark]
    simp only [List.splitOn_intercalate '&' hamp (by simp), hcuts]
    rfl

/-! ## Values without a text -/

/-- The value has no text that could stand in an address: it is null, or it has no text at all. -/
def HasNoText (v : Value) : Prop := v = .null ∨ ∃ e, v.stringify = .error e

theorem exists_textOf_eq_error_iff {v : Value} : (∃ e, textOf v = .error e) ↔ HasNoText v := by
  cases v <;> simp [textOf, HasNoText]

theorem stringify_eq_ok_of_textOf {v : Value} {t : Text} (h : textOf v = .ok t) :
    v.stringify = .ok t := by
  cases v with
  | null => cases h
  | _ => exact h

theorem exists_withQuery_eq_error_iff {path : Value} {parameters : List (Text × Value)} :
    (∃ e, withQuery path parameters = .error e) ↔
      HasNoText path ∨ ∃ item ∈ parameters, HasNoText item.2 := by
  have hitems : (∃ item ∈ sortParameters parameters, HasNoText item.2) ↔
      ∃ item ∈ parameters, HasNoText item.2 :=
    exists_congr fun _ => and_congr_left fun _ =>
      (stablySorted_sortParameters parameters).perm.mem_iff
  rw [withQuery_eq, exists_bind_eq_error_iff, exists_textOf_eq_error_iff, ← hitems]
  simp only [exists_map_eq_error_iff, exists_mapM_eq_error_iff, exists_textOf_eq_error_iff]
  cases hpath : textOf path with
  | error e =>
    have hnone : HasNoText path := exists_textOf_eq_error_iff.mp ⟨e, hpath⟩
    exact iff_of_true (Or.inl hnone) (Or.inl hnone)
  | ok p => simp

/-! ## Reading back -/

/-- A parameter with the text of its value. -/
def shown (item : Text × Value) : Except MarkupError (Text × Text) :=
  item.2.stringify.map (Prod.mk item.1)

/-- Where all parameters have texts that could stand in an address, the sorted texts are the texts
sorted. -/
theorem exists_stablySorted {parameters : List (Text × Value)} {sorted : List (Text × Text)}
    (h : ((sortParameters parameters).mapM fun item => (textOf item.2).map (Prod.mk item.1)) =
      .ok sorted) :
    ∃ items, parameters.mapM shown = .ok items ∧ StablySorted items sorted := by
  have hsorted := stablySorted_sortParameters parameters
  have hshown : ∀ (item : Text × Value) result,
      (textOf item.2).map (Prod.mk item.1) = .ok result → shown item = .ok result := by
    rintro item _ htext
    obtain ⟨t, ht, rfl⟩ := map_eq_ok.mp htext
    rw [shown, stringify_eq_ok_of_textOf ht]
    rfl
  have hall : ∀ item ∈ parameters, ∃ result, shown item = .ok result := by
    intro item hitem
    obtain ⟨result, hresult⟩ := exists_eq_ok_of_mapM_eq_ok h (hsorted.perm.mem_iff.mpr hitem)
    exact ⟨result, hshown item result hresult⟩
  obtain ⟨items, hitems⟩ := exists_mapM_eq_ok hall
  refine ⟨items, hitems, ?_⟩
  -- a text is a function of its value, and a value keeps its place when it is shown
  have htext : ∀ (item : Text × Value) result, shown item = .ok result →
      (item.1, item.2.stringify.toOption.getD []) = result := by
    rintro item _ hresult
    obtain ⟨t, ht, rfl⟩ := map_eq_ok.mp hresult
    rw [ht]
    rfl
  rw [← map_eq_of_mapM_eq_ok hitems htext,
    ← map_eq_of_mapM_eq_ok h fun item result hresult =>
      htext item result (hshown item result hresult)]
  exact hsorted.map fun v => v.stringify.toOption.getD []

/-- An address with a query is well-escaped, and decoding it, cutting it at its separators and
reading the pieces gives the bytes of the text of the path and those of the keys and of the texts of
the values, in the stable order of the keys; there is no question mark if there are no parameters.
All pieces are quoted texts.  There is no address exactly if the path or the value of a parameter
has no text, and the order in which parameters with different keys are given makes no difference,
not even to the failure. -/
theorem withQuery_reads_back (path : Value) (parameters : List (Text × Value)) :
    (∀ s, withQuery path parameters = .ok s →
      WellEscaped s.buffer ∧
      ∃ text items sorted pieces,
        path.stringify = .ok text ∧ parameters.mapM shown = .ok items ∧ StablySorted items sorted ∧
        Pieces.split? (decode s.buffer) = some pieces ∧
        (∀ piece ∈ pieces.all, Quoted piece) ∧
        unquote pieces.path = text.utf8 ∧
        pieces.parameters.map (List.map fun item => (unquote item.1, unquote item.2)) =
          if parameters.isEmpty then none
          else some (sorted.map fun item => (item.1.utf8, item.2.utf8))) ∧
    ((∃ e, withQuery path parameters = .error e) ↔
      HasNoText path ∨ ∃ item ∈ parameters, HasNoText item.2) ∧
    ((parameters.map Prod.fst).Nodup → ∀ others : List (Text × Value), others.Perm parameters →
      withQuery path others = withQuery path parameters) := by
  refine ⟨fun s hs => ?_, exists_withQuery_eq_error_iff, fun hkeys others hperm => ?_⟩
  · rw [withQuery_eq] at hs
    obtain ⟨text, htext, hs⟩ := bind_eq_ok.mp hs
    obtain ⟨sorted, hsorted, rfl⟩ := map_eq_ok.mp hs
    obtain ⟨items, hitems, hstable⟩ := exists_stablySorted hsorted
    have hempty : sorted.isEmpty = parameters.isEmpty := by
      have hlength := hstable.perm.length_eq.trans (length_of_mapM_eq_ok hitems)
      rw [Bool.eq_iff_iff, List.isEmpty_iff_length_eq_zero, List.isEmpty_iff_length_eq_zero,
        hlength]
    obtain ⟨hpath, hparameters⟩ := Pieces.unquote_quoted text sorted
    rw [hempty] at hparameters
    exact ⟨wellEscaped_escape _, text, items, sorted, _, stringify_eq_ok_of_textOf htext, hitems,
      hstable, (congrArg Pieces.split? (decode_escape _)).trans (split?_address text sorted),
      fun _ => Pieces.quoted_of_mem_all_quoted, hpath, hparameters⟩
  · rw [withQuery_eq, withQuery_eq, sortParameters_eq_of_perm hperm hkeys]

/-- A query whose keys and values hold its separators, given in both orders. -/
theorem withQuery_reads_back_separators :
    withQuery (.str "/f b".toList) [("a=".toList, .str "?".toList),
      ("b".toList, .str "3&4".toList)] =
      .ok (.trusted "/f%20b?a%3D=%3F&amp;b=3%264".toList) ∧
    WellEscaped "/f%20b?a%3D=%3F&amp;b=3%264".toList := by
  have hsort : sortParameters [("b".toList, .str "3&4".toList), ("a=".toList, .str "?".toList)] =
      [("a=".toList, .str "?".toList), ("b".toList, .str "3&4".toList)] := by
    have hkeys : Text.atMost "b".toList "a=".toList = false := by decide +kernel
    simpa [sortParameters, List.mergeSort, List.merge] using hkeys
  have hresult : withQuery (.str "/f b".toList)
      [("b".toList, .str "3&4".toList), ("a=".toList, .str "?".toList)] =
        .ok (.trusted "/f%20b?a%3D=%3F&amp;b=3%264".toList) := by
    rw [withQuery_eq, hsort]
    rfl
  obtain ⟨hreads, -, hperm⟩ := withQuery_reads_back (.str "/f b".toList)
    [("b".toList, .str "3&4".toList), ("a=".toList, .str "?".toList)]
  have hkeys : ["b".toList, "a=".toList].Nodup := by decide
  exact ⟨(hperm hkeys _ (List.Perm.swap _ _ [])).trans hresult, (hreads _ hresult).1⟩

end EscapeOnce.Url
