/-
Two queries put together. Their bodies with an ampersand in between make a query whose layer is that of the second on
top of that of the first: what the pieces leave at a setting is then what `Layer.merge` makes of the two settings.

- `SettingReader`: what the two settings of a layer have in common. `SettingReader.joined`: more pieces about a setting.
- `layer_eq_ok_iff`: the layer of a query, in terms of what its pieces leave at the two settings.
- `layer_joined`: the layer of two queries put together, and the configuration that comes of it.
-/
import ResourceInliner.Proofs.Query.Meaning

namespace ResourceInliner.Query

/-! ## One setting -/

/-- A setting that takes one value: null leaves it unset, a list is refused, and a value that is not refused sets it. -/
structure SettingReader {α : Type} (read : Json → Except OptionFault (Option α)) : Prop where
  unset : read .null = .ok none
  list : ∀ items found, read (.array items) ≠ .ok found
  sets : ∀ value : Scalar, read value.json ≠ .ok none

theorem reader_keepUrl : SettingReader Layer.readKeepUrl where
  unset := rfl
  list := nofun
  sets value := by cases value <;> exact nofun

theorem reader_parseModule : SettingReader Layer.readParseModule where
  unset := rfl
  list := nofun
  sets value := by cases value <;> exact nofun

/-- the setting of this name that assignments leave; what is not assigned is null -/
def settingOf (args : List Assignment) (name : String) : Json :=
  (held (about name args)).getD .null

theorem setting_assigned (args : List Assignment) (name : String) :
    setting ((args.map Assignment.argument).foldl Argument.apply []) name = settingOf args name := by
  rw [setting, get?_assigned, settingOf]

/-- **Step.** What later assignments set a setting to comes on top of what it was. -/
theorem SettingReader.joined {α : Type} {read : Json → Except OptionFault (Option α)} (hread : SettingReader read)
    {args others : List Assignment} {name : String} {first second : Option α}
    (hfirst : read (settingOf args name) = .ok first) (hsecond : read (settingOf others name) = .ok second) :
    read (settingOf (args ++ others) name) = .ok (second.or first) := by
  rw [settingOf] at hfirst hsecond
  rw [settingOf, about_append]
  have hleaves := leaves_held (about name others)
  generalize about name args = before at hfirst ⊢
  generalize about name others = later at hleaves hsecond ⊢
  generalize held later = there at hleaves hsecond
  cases hleaves with
  | absent =>
    -- nothing is assigned, and the setting stays as it was
    have hnone : second = none := Except.ok.inj (hsecond.symm.trans hread.unset)
    rw [List.append_nil, hnone, Option.none_or]
    exact hfirst
  | @single between last hlast =>
    -- the last value decides, whatever was assigned before it
    rw [← List.append_assoc, held_of_set _ hlast]
    obtain ⟨value, hvalue⟩ : ∃ value, second = some value := by
      refine Option.ne_none_iff_exists'.1 ?_
      rintro rfl
      exact hread.sets last.value hsecond
    rw [hvalue, Option.some_or, ← hvalue]
    exact hsecond
  | list => exact absurd hsecond (hread.list _ _)

/-! ## The layer of a query -/

/-- the layer of a query is what its pieces leave at the two settings -/
theorem layer_eq_ok_iff {text : String} (h : ¬ Braced text) {a : Layer} : layer ("?" ++ text) = .ok a ↔
    ∃ args, List.Forall₂ Says (pieces text.toList) args ∧
      Layer.readKeepUrl (settingOf args "keepUrl") = .ok a.keepUrl ∧
      Layer.readParseModule (settingOf args "parseModule") = .ok a.parseModule := by
  have hlayer : layer ("?" ++ text) = .ok a ↔
      ∃ entries, parse ("?" ++ text) = .ok entries ∧ Layer.ofJson (.object entries) = .ok a := by
    rw [layer]
    cases parse ("?" ++ text) with
    | error error => simp [bind, Except.bind]
    | ok entries =>
      cases hentries : Layer.ofJson (.object entries) <;> simp [bind, Except.bind, Except.mapError, hentries]
  rw [hlayer]
  simp only [parse_eq_ok_iff h, entriesOf_eq_ok_iff, Layer.ofJson_object_eq_ok_iff]
  constructor
  · rintro ⟨entries, ⟨args, hargs, rfl⟩, hkeepUrl, hparseModule⟩
    rw [setting_assigned] at hkeepUrl hparseModule
    exact ⟨args, hargs, hkeepUrl, hparseModule⟩
  · rintro ⟨args, hargs, hkeepUrl, hparseModule⟩
    refine ⟨_, ⟨args, hargs, rfl⟩, ?_⟩
    rw [setting_assigned, setting_assigned]
    exact ⟨hkeepUrl, hparseModule⟩

/-! ## Two queries put together -/

theorem pieces_joined (x y : String) : pieces (x ++ "&" ++ y).toList = pieces x.toList ++ pieces y.toList := by
  have hjoined : (x ++ "&" ++ y).toList = x.toList ++ '&' :: y.toList := by
    rw [String.toList_append, String.toList_append, List.append_assoc]
    rfl
  have hsplit : (x.toList ++ '&' :: y.toList).splitOnP isSeparator =
      x.toList.splitOnP isSeparator ++ y.toList.splitOnP isSeparator :=
    List.splitOnP_append_cons _ _ rfl
  rw [hjoined, pieces, hsplit, List.filter_append, pieces, pieces]

/-- **Main result.** The layer of two queries put together is that of the second on top of that of the first. So any
loader-wide layer, and any host, comes to the configuration of the two merged, or to its error. -/
theorem layer_joined {x y : String} (hx : ¬ Braced x) (hy : ¬ Braced y) (hxy : ¬ Braced (x ++ "&" ++ y)) {a b : Layer}
    (ha : layer ("?" ++ x) = .ok a) (hb : layer ("?" ++ y) = .ok b) :
    let query := "?" ++ (x ++ "&" ++ y)
    layer query = .ok (a.merge b) ∧
    (∀ loader, (layer query >>= fun found => Config.resolve loader found) = Config.resolve loader (a.merge b)) ∧
    ∀ (host : Host) (loader : Layer), host.query = query → Layer.ofOptions host.options = .ok loader →
      host.config = Config.resolve loader (a.merge b) := by
  intro query
  have hlayer : layer query = .ok (a.merge b) := by
    obtain ⟨args, hargs, hakeepUrl, haparseModule⟩ := (layer_eq_ok_iff hx).1 ha
    obtain ⟨others, hothers, hbkeepUrl, hbparseModule⟩ := (layer_eq_ok_iff hy).1 hb
    refine (layer_eq_ok_iff hxy).2 ⟨args ++ others, ?_, ?_, ?_⟩
    · rw [pieces_joined]
      exact List.rel_append hargs hothers
    · exact reader_keepUrl.joined hakeepUrl hbkeepUrl
    · exact reader_parseModule.joined haparseModule hbparseModule
  refine ⟨hlayer, fun loader => ?_, fun host loader hquery hloader => ?_⟩
  · rw [hlayer]
    rfl
  · rw [Host.config, hloader, hquery, hlayer]
    rfl

/-- a flag that is set, pushed to as a list and switched off again, next to a list that is no setting -/
theorem layer_joined_sample :
    let x := "keepUrl,parseModule=babel"
    let y := "keepUrl[]=a&ext[]=b,-keepUrl"
    layer ("?" ++ x) = .ok ⟨some true, some "babel"⟩ ∧ layer ("?" ++ y) = .ok ⟨some false, none⟩ ∧
      layer ("?" ++ (x ++ "&" ++ y)) = .ok ⟨some false, some "babel"⟩ ∧
      ∀ host : Host, host.query = "?" ++ (x ++ "&" ++ y) → host.options = none → host.config = .ok ⟨false, .babel⟩ := by
  intro x y
  have hplain : ¬ Braced x ∧ ¬ Braced y ∧ ¬ Braced (x ++ "&" ++ y) :=
    ⟨isJson_eq_false_iff.1 (by decide), isJson_eq_false_iff.1 (by decide), isJson_eq_false_iff.1 (by decide)⟩
  have hx : layer ("?" ++ x) = .ok ⟨some true, some "babel"⟩ := by
    have hpieces : pieces x.toList = ["keepUrl".toList, "parseModule=babel".toList] := by decide
    have hflag : Says "keepUrl".toList ⟨"keepUrl", false, .flag true⟩ := .flags (by decide) (by decide)
    have hset : Says "parseModule=babel".toList ⟨"parseModule", false, .text "babel" (by decide)⟩ :=
      @Says.sets "parseModule".toList "babel".toList _ _ (by decide) (by decide) (by decide) (by decide)
    have hsays := List.Forall₂.cons hflag (.cons hset .nil)
    rw [← hpieces] at hsays
    exact (layer_eq_ok_iff hplain.1).2 ⟨_, hsays, rfl, rfl⟩
  have hy : layer ("?" ++ y) = .ok ⟨some false, none⟩ := by
    have hpieces : pieces y.toList = ["keepUrl[]=a".toList, "ext[]=b".toList, "-keepUrl".toList] := by decide
    have hpush : Says "keepUrl[]=a".toList ⟨"keepUrl", true, .text "a" (by decide)⟩ :=
      @Says.pushes "keepUrl[]".toList "a".toList _ _ (by decide) (by decide) (by decide)
    have hother : Says "ext[]=b".toList ⟨"ext", true, .text "b" (by decide)⟩ :=
      @Says.pushes "ext[]".toList "b".toList _ _ (by decide) (by decide) (by decide)
    have hflag : Says "-keepUrl".toList ⟨"keepUrl", false, .flag false⟩ := .flags (by decide) (by decide)
    have hsays := List.Forall₂.cons hpush (.cons hother (.cons hflag .nil))
    rw [← hpieces] at hsays
    exact (layer_eq_ok_iff hplain.2.1).2 ⟨_, hsays, rfl, rfl⟩
  obtain ⟨hlayer, -, hhost⟩ := layer_joined hplain.1 hplain.2.1 hplain.2.2 hx hy
  refine ⟨hx, hy, hlayer, fun host hquery hoptions => ?_⟩
  rw [hhost host .empty hquery (by rw [hoptions]; rfl)]
  rfl

end ResourceInliner.Query
