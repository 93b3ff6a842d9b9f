import EscapeOnce.Command
import EscapeOnce.Proofs.Entity.Code
import EscapeOnce.Proofs.Page.Fragments
import EscapeOnce.Proofs.Value.OfJson

/-!
# Where rendering trusts its input

The fragments of a page come from outside, and one of them is trusted only if it says so: as an
object whose one member is a string under the name `safe`.  Everything else is to be escaped.  The
reader of fragments takes such a record in a second form, though, without its name: an array of one
string is trusted as well, and its string is written into the page as it is.

`Json.describedFragment` is the fragment as it is described, and the page of the fragments as they
are described is what should be printed.  A page is always printed, and it is the described one
exactly if no fragment is an array of one string (`render_eq_described_iff`).  An array that is
described as raw is longer than its string, so one of them suffices to tell the pages apart,
whatever the other fragments are.
-/

namespace EscapeOnce

open Entity Outcome

/-- The fragment of a document as it is described: safe if it is an object whose one member is a
string under the name `safe`, and raw otherwise. -/
def Json.describedFragment : Json → Value
  | .object [(name, .string t)] =>
    if name = "safe".toList then .safe (.trusted t) else .ofJson (.object [(name, .string t)])
  | document => .ofJson document

/-- A text is shorter than its quoted form. -/
theorem Text.length_lt_length_quoted (t : Text) : t.length < t.quoted.length := by
  have hinside : t.length ≤ (t.flatMap quotedChar).length := by
    induction t with
    | nil => exact Nat.le_refl 0
    | cons c t ih =>
      have hc : 1 ≤ (quotedChar c).length := by
        unfold quotedChar
        split
        · exact Nat.le_add_left ..
        · split <;> simp
      rw [List.flatMap_cons, List.length_append, List.length_cons]
      omega
  rw [quoted, List.length_append, List.length_cons]
  omega

/-! ## One fragment -/

namespace Json

/-- The reader of fragments takes no fragment for another than is described, but an array of one
string. -/
theorem fragment_eq_describedFragment {document : Json} (h : ∀ t, document ≠ .array [.string t]) :
    document.fragment = document.describedFragment := by
  unfold fragment
  split
  case h_1 => rfl
  case h_2 => exact absurd rfl (h _)
  case h_3 hobject _ =>
    unfold describedFragment
    split
    · exact absurd rfl (hobject _ _)
    · rfl

/-- A fragment that is not described as safe is described as the value of its document. -/
theorem describedFragment_eq_ofJson {document : Json}
    (h : ∀ t, document ≠ .object [("safe".toList, .string t)]) :
    document.describedFragment = .ofJson document := by
  unfold describedFragment
  split
  · split
    case isTrue hname => exact absurd (by rw [hname]) (h _)
    case isFalse => rfl
  · rfl

/-- Every fragment has a safe form as it is described. -/
theorem toSafe_describedFragment (document : Json) :
    ∃ s, document.describedFragment.toSafe = .ok s := by
  unfold describedFragment
  split
  · split
    · exact ⟨_, rfl⟩
    · obtain ⟨t, h⟩ := Value.toSafe_ofJson _
      exact ⟨_, h⟩
  · obtain ⟨t, h⟩ := Value.toSafe_ofJson _
    exact ⟨_, h⟩

/-- Described as raw, an array of one string is longer than its string. -/
theorem toSafe_describedFragment_array (t : Text) :
    ∃ s, (array [.string t]).describedFragment.toSafe = .ok s ∧ t.length < s.buffer.length := by
  have hrepresentation : (Value.list [.str t]).representation =
      .ok (Value.bracketed '[' ']' [t.quoted]) := by
    rw [Value.representation, Value.representations, Value.representation, Value.representations]
    rfl
  have hdescribed : (array [.string t]).describedFragment = .list [.str t] := by
    have hunnamed : ∀ u, array [.string t] ≠ object [("safe".toList, .string u)] := by
      rintro u ⟨⟩
    rw [describedFragment_eq_ofJson hunnamed, Value.ofJson, Value.ofElements, Value.ofJson,
      Value.ofElements]
  refine ⟨.escape (Value.bracketed '[' ']' [t.quoted]), ?_, ?_⟩
  · rw [hdescribed]
    exact congrArg (Except.map SafeText.escape) hrepresentation
  · have hescaped := length_le_length_escape (Value.bracketed '[' ']' [t.quoted])
    have hquoted := t.length_lt_length_quoted
    have hbracketed : t.quoted.length ≤ (Value.bracketed '[' ']' [t.quoted]).length := by
      rw [Value.bracketed, List.intercalate_singleton, List.length_append, List.length_cons]
      omega
    exact Nat.lt_of_lt_of_le (Nat.lt_of_lt_of_le hquoted hbracketed) hescaped

/-- No fragment makes more text than it is described to make, and an array of one string makes
less. -/
theorem length_fragment (document : Json) :
    ∃ s described, document.fragment.toSafe = .ok s ∧
      document.describedFragment.toSafe = .ok described ∧
      s.buffer.length ≤ described.buffer.length ∧
      ((∃ t, document = .array [.string t]) → s.buffer.length < described.buffer.length) := by
  by_cases h : ∃ t, document = .array [.string t]
  · obtain ⟨t, rfl⟩ := h
    obtain ⟨described, hdescribed, hlt⟩ := toSafe_describedFragment_array t
    exact ⟨.trusted t, described, rfl, hdescribed, Nat.le_of_lt hlt, fun _ => hlt⟩
  · obtain ⟨s, hs⟩ := toSafe_describedFragment document
    have hfragment := fragment_eq_describedFragment fun t ht => h ⟨t, ht⟩
    exact ⟨s, s, by rw [hfragment, hs], hs, Nat.le_refl _, fun harray => absurd harray h⟩

/-- Of fragments that are not described as safe, only an array of one string can be unclean. -/
theorem clean_fragment {document : Json} {s : SafeText}
    (h : ∀ t, document ≠ .object [("safe".toList, .string t)])
    (hs : document.fragment.toSafe = .ok s) :
    Clean s.buffer ↔ ∀ t, document = .array [.string t] → Clean t := by
  by_cases harray : ∃ t, document = .array [.string t]
  · obtain ⟨t, rfl⟩ := harray
    cases hs
    constructor
    · rintro hclean u hu
      cases hu
      exact hclean
    · exact fun hclean => hclean t rfl
  · have hraw := describedFragment_eq_ofJson h
    rw [← fragment_eq_describedFragment fun t ht => harray ⟨t, ht⟩] at hraw
    obtain ⟨t, ht⟩ := Value.toSafe_ofJson document
    rw [hraw, ht] at hs
    cases hs
    exact ⟨fun _ t ht => absurd ⟨t, ht⟩ harray, fun _ => clean_escape t⟩

end Json

/-! ## All fragments -/

/-- The page of fragments and the one that is described exist.  The first is no longer, and it is
shorter if one of the fragments is an array of one string. -/
theorem length_pageOf_fragments (fragments : List Json) :
    ∃ page described, pageOf (fragments.map Json.fragment) = .ok page ∧
      pageOf (fragments.map Json.describedFragment) = .ok described ∧
      page.buffer.length ≤ described.buffer.length ∧
      ((∃ t, .array [.string t] ∈ fragments) → page.buffer.length < described.buffer.length) := by
  induction fragments with
  | nil => exact ⟨.empty, .empty, rfl, rfl, Nat.le_refl _, fun ⟨_, h⟩ => absurd h List.not_mem_nil⟩
  | cons document fragments ih =>
    obtain ⟨page, described, hpage, hdescribed, hle, hlt⟩ := ih
    obtain ⟨s, d, hs, hd, hsle, hslt⟩ := document.length_fragment
    refine ⟨s ++ page, d ++ described, ?_, ?_, ?_, ?_⟩
    · rw [List.map_cons, pageOf_cons, hs, hpage]
      rfl
    · rw [List.map_cons, pageOf_cons, hd, hdescribed]
      rfl
    · show (s.buffer ++ page.buffer).length ≤ (d.buffer ++ described.buffer).length
      rw [List.length_append, List.length_append]
      omega
    · rintro ⟨t, ht⟩
      show (s.buffer ++ page.buffer).length < (d.buffer ++ described.buffer).length
      rw [List.length_append, List.length_append]
      rcases List.mem_cons.mp ht with hdocument | ht
      · have := hslt ⟨t, hdocument.symm⟩
        omega
      · have := hlt ⟨t, ht⟩
        omega

/-- Without fragments that are described as safe, a page is clean as far as its arrays of one string
are. -/
theorem clean_pageOf_fragments {fragments : List Json} {page : SafeText}
    (h : ∀ t, .object [("safe".toList, .string t)] ∉ fragments)
    (hpage : pageOf (fragments.map Json.fragment) = .ok page) :
    Clean page.buffer ↔ ∀ t, .array [.string t] ∈ fragments → Clean t := by
  induction fragments generalizing page with
  | nil =>
    cases hpage
    exact ⟨fun _ t ht => absurd ht List.not_mem_nil, fun _ c hc => absurd hc List.not_mem_nil⟩
  | cons document fragments ih =>
    rw [List.map_cons, pageOf_cons] at hpage
    obtain ⟨s, hs, hpage⟩ := bind_eq_ok.mp hpage
    obtain ⟨others, hothers, rfl⟩ := map_eq_ok.mp hpage
    have hfirst := Json.clean_fragment (fun t ht => h t (ht ▸ List.mem_cons_self)) hs
    have hrest := ih (fun t ht => h t (List.mem_cons_of_mem _ ht)) hothers
    refine clean_append.trans ?_
    rw [hfirst, hrest]
    constructor
    · rintro ⟨hdocument, hfragments⟩ t ht
      rcases List.mem_cons.mp ht with ht | ht
      · exact hdocument t ht.symm
      · exact hfragments t ht
    · intro hall
      exact ⟨fun t ht => hall t (ht ▸ List.mem_cons_self),
        fun t ht => hall t (List.mem_cons_of_mem _ ht)⟩

/-! ## The command -/

/-- The UTF-8 form of a text is read as that text. -/
theorem readInput_toUTF8 (s : String) : readInput s.toUTF8 = .ok s.toList := by
  have hread : String.fromUTF8? s.toUTF8 = some s := dif_pos s.isValidUTF8
  rw [readInput, hread]

/-- Rendering in html mode prints the page of the fragments that it reads. -/
theorem Command.run_render_html {input : ByteArray} {t : Text} {fragments : List Json}
    {page : SafeText} (hinput : readInput input = .ok t)
    (hjson : readJson t = .ok (.array fragments))
    (hpage : pageOf (fragments.map Json.fragment) = .ok page) :
    run input (.render .html) = .ok (line page.buffer) := by
  have hrendered : renderFragments .html fragments = .ok (.html page) := by
    have hfinalized := Accumulator.finalize_appendAll_empty (fragments.map Json.fragment)
    rw [hpage] at hfinalized
    rw [renderFragments]
    obtain ⟨a, ha, hfinal⟩ := map_eq_ok.mp hfinalized
    rw [ha]
    exact congrArg Except.ok hfinal
  rw [run, hinput]
  show (readJson t >>= _) = _
  rw [hjson]
  show ((renderFragments .html fragments).mapError CommandError.markup >>= _) = _
  rw [hrendered]
  rfl

/-- Rendering an array in html mode always prints a page.  It is the described one exactly if no
fragment is an array of one string.  Without fragments that are described as safe it is clean
exactly if all those strings are. -/
theorem render_eq_described_iff {input : ByteArray} {t : Text} {fragments : List Json}
    (hinput : readInput input = .ok t) (hjson : readJson t = .ok (.array fragments)) :
    ∃ page described, Command.run input (.render .html) = .ok (line page.buffer) ∧
      pageOf (fragments.map Json.describedFragment) = .ok described ∧
      (page = described ↔ ∀ t, .array [.string t] ∉ fragments) ∧
      ((∀ t, .object [("safe".toList, .string t)] ∉ fragments) →
        (Clean page.buffer ↔ ∀ t, .array [.string t] ∈ fragments → Clean t)) := by
  obtain ⟨page, described, hpage, hdescribed, -, hlt⟩ := length_pageOf_fragments fragments
  refine ⟨page, described, Command.run_render_html hinput hjson hpage, hdescribed, ?_,
    fun h => clean_pageOf_fragments h hpage⟩
  constructor
  · rintro rfl t ht
    exact Nat.lt_irrefl _ (hlt ⟨t, ht⟩)
  · intro h
    have hsame : fragments.map Json.fragment = fragments.map Json.describedFragment :=
      List.map_congr_left fun document hmem =>
        Json.fragment_eq_describedFragment fun t ht => h t (ht ▸ hmem)
    rw [hsame, hdescribed] at hpage
    exact (Except.ok.inj hpage).symm

/-- A raw text and a safe fragment are printed as they are described. -/
theorem render_raw_and_safe :
    ∃ page described,
      Command.run "[\"<\",\x7b\"safe\":\"<\"\x7d]".toUTF8 (.render .html) = .ok (line page.buffer) ∧
      pageOf ([.string ['<'], .object [("safe".toList, .string ['<'])]].map
        Json.describedFragment) = .ok described ∧ page = described := by
  have hjson : readJson "[\"<\",\x7b\"safe\":\"<\"\x7d]".toList =
      .ok (.array [.string ['<'], .object [("safe".toList, .string ['<'])]]) := by cbv
  obtain ⟨page, described, hrun, hdescribed, hsame, -⟩ :=
    render_eq_described_iff (readInput_toUTF8 _) hjson
  exact ⟨page, described, hrun, hdescribed, hsame.mpr fun t ht => by simp at ht⟩

set_option maxRecDepth 4000 in
/-- An array of one string is printed as it is, markup included, where it is described as raw. -/
theorem render_array_of_one_string :
    readJson "[[\"<b>\"]]".toList = .ok (.array [.array [.string "<b>".toList]]) ∧
    Command.run "[[\"<b>\"]]".toUTF8 (.render .html) = .ok (line "<b>".toList) ∧
    pageOf ([.array [.string "<b>".toList]].map Json.describedFragment) =
      .ok (.trusted "[&quot;&lt;b&gt;&quot;]".toList) ∧
    ¬ Clean "<b>".toList := by
  have hjson : readJson "[[\"<b>\"]]".toList = .ok (.array [.array [.string "<b>".toList]]) := by
    cbv
  refine ⟨hjson, Command.run_render_html (readInput_toUTF8 _) hjson rfl, ?_, by decide⟩
  rfl

end EscapeOnce
