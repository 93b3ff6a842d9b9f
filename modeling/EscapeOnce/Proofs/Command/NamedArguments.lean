import EscapeOnce.Command.Line
import EscapeOnce.Proofs.Dict.Entries
import EscapeOnce.Proofs.Substitution.Consumption

/-!
# Named arguments of the command

A percent template is filled in by position or by name, and the command that fills it in decides
between the two by its arguments: by name if there is a named argument, by position otherwise.  An
array of arguments is described as positional and an object as named, and so they are, but for the
object without members, which leaves no named argument behind.  With no other argument, the template
is then filled in by position.

The two agree only on a template without directives (`substitute_positional_nil_eq_named_nil_iff`).
Without arguments to take, the first directive of a template that is filled in by position is
refused, and with a reason that no directive of a template that is filled in by name ever has.
-/

namespace EscapeOnce

open Outcome

/-! ## No arguments by position and by name -/

namespace Percent

/-- A template that begins with a run of literal text and goes on with a directive is refused where
there is no positional argument. -/
theorem fill_positional_nil (render : Value → Directive → Except MarkupError Text)
    {s : Script Directive} (h : s.directives ≠ []) :
    ∃ e : FormatError, fill render (.positional []) s = .error (.format e) ∧
      (e = .notEnoughArguments ∨ e = .notAMapping) := by
  induction s with
  | done | fault => exact absurd rfl h
  | literal c rest ih =>
    obtain ⟨e, he, hreason⟩ := ih h
    refine ⟨e, ?_, hreason⟩
    rw [fill_literal, he]
    rfl
  | directive d rest =>
    rw [fill_directive]
    cases d.key with
    | none => exact ⟨.notEnoughArguments, rfl, Or.inl rfl⟩
    | some key => exact ⟨.notAMapping, rfl, Or.inr rfl⟩

/-- Without directives a template does not depend on its arguments, as long as none is left over. -/
theorem fill_eq_of_directives_eq_nil {render : Value → Directive → Except MarkupError Text}
    {s : Script Directive} (h : s.directives = []) {args other : Arguments}
    (hargs : finish args = finish other) : fill render args s = fill render other s := by
  induction s with
  | done => rw [fill, fill, hargs]
  | fault => rfl
  | literal c rest ih => rw [fill_literal, fill_literal, ih h]
  | directive d rest => cases h

theorem substitute_positional_nil_eq_named_nil_iff (template : Text) :
    substitute template (.positional []) = substitute template (.named []) ↔
      (Directive.script template).directives = [] := by
  constructor
  · intro hsame
    refine Classical.byContradiction fun h => ?_
    obtain ⟨e, he, hreason⟩ := fill_positional_nil renderDirective h
    have hnamed := failsWith_substitute_named template [] _ (hsame.symm.trans he)
    rcases hreason with rfl | rfl
    · rcases hnamed with hdirective | ⟨key, hkey⟩
      · exact hdirective
      · cases hkey
    · rcases hnamed with hdirective | ⟨key, hkey⟩
      · exact hdirective
      · cases hkey
  · exact fun h => fill_eq_of_directives_eq_nil h rfl

end Percent

/-! ## The arguments of the command -/

namespace Command

/-- Named arguments as pairs of texts, and the members of an object over them. -/
def namedWith (named : List (Text × Text)) (members : List (Text × Json)) : Dict Value :=
  withMembers (givenNamed named) members

section

variable (input : ByteArray) (template : Text) (args : List Text) (named : List (Text × Text))
  {json : Text}

theorem run_format_percent {document : Json} {values : List Value} {entries : Dict Value}
    (hjson : readJson json = .ok document)
    (h : addJsonArguments (args.map .str) (givenNamed named) document = (values, entries)) :
    run input (.format template .percent args named (some json)) =
      printed (Style.percent.substitute (.trusted template) values entries) := by
  have harguments : (readJson json).map (addJsonArguments (args.map .str) (givenNamed named)) =
      .ok (values, entries) := by
    rw [hjson]
    exact congrArg Except.ok h
  rw [run]
  show ((readJson json).map (addJsonArguments (args.map .str) (givenNamed named)) >>= _) = _
  rw [harguments]
  rfl

/-- With an array and no named arguments a percent template is filled in by position. -/
theorem run_format_array {elements : List Json} (hjson : readJson json = .ok (.array elements)) :
    run input (.format template .percent args [] (some json)) =
      printed ((SafeText.trusted template).interpolate
        (.positional (args.map .str ++ Value.ofElements elements))) := by
  exact run_format_percent input template args [] hjson rfl

/-- With an object and no positional arguments a percent template is filled in by name, unless no
name is left. -/
theorem run_format_object {members : List (Text × Json)}
    (hjson : readJson json = .ok (.object members)) :
    run input (.format template .percent [] named (some json)) =
      printed ((SafeText.trusted template).interpolate
        (if (namedWith named members).isEmpty then .positional []
          else .named (namedWith named members))) := by
  have hrun : run input (.format template .percent [] named (some json)) =
      printed (Style.percent.substitute (.trusted template) [] (namedWith named members)) :=
    run_format_percent input template [] named hjson rfl
  rw [hrun, Style.substitute]
  split <;> rfl

end

theorem namedWith_eq_nil_iff {named : List (Text × Text)} {members : List (Text × Json)} :
    namedWith named members = [] ↔ named = [] ∧ members = [] := by
  have hmembers : Value.ofMembers members = [] ↔ members = [] := by
    cases members <;> simp [Value.ofMembers]
  rw [namedWith, withMembers, givenNamed, Dict.ofList, Dict.insertAll_eq_nil_iff,
    Dict.insertAll_eq_nil_iff, Dict.sortedOf_eq_nil_iff, hmembers]
  simp

/-- A member of the object counts for more than a pair, and of pairs or members of one name the last
does. -/
theorem get?_namedWith (named : List (Text × Text)) (members : List (Text × Json)) (key : Text) :
    (namedWith named members).get? key =
      (Dict.get? (Value.ofMembers members).reverse key).or
        ((Dict.get? named.reverse key).map Value.str) := by
  have hgiven : (givenNamed named).get? key = (Dict.get? named.reverse key).map Value.str := by
    rw [givenNamed, Dict.get?_ofList, ← List.map_reverse]
    exact Dict.get?_map Value.str
  rw [namedWith, withMembers, Dict.get?_insertAll,
    Dict.get?_reverse (Dict.ordered_sortedOf _).nodup_keys, Dict.get?_sortedOf, hgiven]

/-- What is printed of a filled in template tells texts and errors apart. -/
theorem printed_interpolate_eq_iff {template : Text} {args other : Arguments} :
    printed ((SafeText.trusted template).interpolate args) =
        printed ((SafeText.trusted template).interpolate other) ↔
      Percent.substitute template args = Percent.substitute template other := by
  have hprinted : ∀ args, printed ((SafeText.trusted template).interpolate args) =
      ((Percent.substitute template args).mapError .markup).map line := by
    intro args
    rw [printed, SafeText.interpolate]
    show (((Percent.substitute template args).map SafeText.trusted).mapError
      CommandError.markup).map _ = _
    cases Percent.substitute template args <;> rfl
  rw [hprinted, hprinted]
  cases Percent.substitute template args <;> cases Percent.substitute template other <;>
    simp [Except.mapError, Except.map, line]

/-- With an object and no positional arguments the command prints the percent template filled in by
name, unless neither an option nor the object names anything and the template has a directive.  The
named arguments are those of the options in order, extended and overridden by the members of the
object.  With an array and no named arguments it prints the template filled in by position. -/
theorem run_format_json_iff (input : ByteArray) (template : Text) (args : List Text)
    (named : List (Text × Text)) {object array : Text}
    {members : List (Text × Json)} {elements : List Json}
    (hobject : readJson object = .ok (.object members))
    (harray : readJson array = .ok (.array elements)) :
    (run input (.format template .percent [] named (some object)) =
        printed ((SafeText.trusted template).interpolate (.named (namedWith named members))) ↔
      (named = [] → members = [] → (Directive.script template).directives = [])) ∧
    ((givenNamed named).keys <+: (namedWith named members).keys ∧
      (namedWith named members).keys.Nodup ∧
      ∀ key, (namedWith named members).get? key =
        (Dict.get? (Value.ofMembers members).reverse key).or
          ((Dict.get? named.reverse key).map Value.str)) ∧
    run input (.format template .percent args [] (some array)) =
      printed ((SafeText.trusted template).interpolate
        (.positional (args.map .str ++ Value.ofElements elements))) := by
  refine ⟨?_, ⟨Dict.keys_isPrefix_insertAll _ _,
    Dict.nodup_keys_insertAll (Dict.nodup_keys_ofList _) _, get?_namedWith named members⟩,
    run_format_array input template args harray⟩
  rw [run_format_object input template named hobject]
  by_cases hnone : namedWith named members = []
  · obtain ⟨rfl, rfl⟩ := namedWith_eq_nil_iff.mp hnone
    rw [hnone]
    show printed ((SafeText.trusted template).interpolate (.positional [])) = _ ↔ _
    rw [printed_interpolate_eq_iff, Percent.substitute_positional_nil_eq_named_nil_iff]
    simp
  · have hnamed : (namedWith named members).isEmpty = false := by simpa using hnone
    rw [hnamed]
    refine iff_of_true rfl fun hnil hmembers => ?_
    exact absurd (namedWith_eq_nil_iff.mpr ⟨hnil, hmembers⟩) hnone

/-- A member counts for more than an option of the same name, and an array comes behind the
options. -/
theorem run_format_json_both :
    run .empty (.format "%(a)s".toList .percent [] [("a".toList, "x".toList)]
      (some "\x7b\"a\":\"y\"\x7d".toList)) = .ok "y\n".toList ∧
    run .empty (.format "%s%s".toList .percent ["x".toList] [] (some "[\"y\"]".toList)) =
      .ok "xy\n".toList := by
  have hobject : readJson "\x7b\"a\":\"y\"\x7d".toList =
      .ok (.object [("a".toList, .string "y".toList)]) := by
    cbv
  have harray : readJson "[\"y\"]".toList = .ok (.array [.string "y".toList]) := by cbv
  obtain ⟨hnamed, -, -⟩ :=
    run_format_json_iff .empty "%(a)s".toList [] [("a".toList, "x".toList)] hobject harray
  obtain ⟨-, -, hpositional⟩ :=
    run_format_json_iff .empty "%s%s".toList ["x".toList] [] hobject harray
  refine ⟨(hnamed.mpr fun h => by simp at h).trans ?_, hpositional.trans ?_⟩
  · decide +kernel
  · decide +kernel

/-- An object without members leaves the template to be filled in by position: there is no argument
for the directive, which by name would show the dictionary. -/
theorem run_format_json_empty_object :
    readJson "\x7b\x7d".toList = .ok (.object []) ∧
    runLine ["format".toList, "%s".toList, "--style".toList, "percent".toList, "--json".toList,
      "\x7b\x7d".toList] .empty = .error (.markup (.format .notEnoughArguments)) ∧
    printed ((SafeText.trusted "%s".toList).interpolate (.named (namedWith [] []))) =
      .ok "\x7b\x7d\n".toList := by
  have hjson : readJson "\x7b\x7d".toList = .ok (.object []) := by cbv
  have hline : ofLine? ["format".toList, "%s".toList, "--style".toList, "percent".toList,
      "--json".toList, "\x7b\x7d".toList] =
      some (.format "%s".toList .percent [] [] (some "\x7b\x7d".toList)) := by
    decide +kernel
  refine ⟨hjson, ?_, ?_⟩
  · rw [runLine, hline]
    show run .empty (.format "%s".toList .percent [] [] (some "\x7b\x7d".toList)) = _
    rw [run_format_object .empty _ [] hjson]
    decide +kernel
  · decide +kernel

end Command

end EscapeOnce
