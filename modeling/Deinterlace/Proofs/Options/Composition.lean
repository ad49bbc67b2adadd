import Deinterlace.Options.Suboptions

/-!
# Composing suboptions

A separator between two texts joins their readings: the items of the second text are read from the
options the first one left. So an error of the first text comes before one of the second, and where
both can be read an option has the value that the last item naming it gives. A text that names every
option, such as the written form of options, leaves nothing of what stands before it.
-/
namespace Deinterlace

namespace Suboptions

/-- The option a setting sets. -/
def Setting.key : Setting → Key
  | .mode _ => .mode
  | .interlacedOnly _ => .interlacedOnly
  | .swapReferences _ => .swapReferences

end Suboptions

/-- The value of one option, as the setting that gives it this value. -/
def Options.setting (o : Options) : Suboptions.Key → Suboptions.Setting
  | .mode => .mode o.mode
  | .interlacedOnly => .interlacedOnly o.interlacedOnly
  | .swapReferences => .swapReferences o.swapReferences

namespace Suboptions

variable {o p : Options} {item : List Char} {setting : Setting} {key : Key} {e : Error}

/-! ## Settings -/

@[simp]
theorem setting_key (o : Options) (key : Key) : (o.setting key).key = key := by
  cases key <;> rfl

/-- An option that is set has the value it was set to. -/
theorem setting_apply_of_eq (o : Options) (h : setting.key = key) :
    (setting.apply o).setting key = setting := by
  subst h
  cases setting <;> rfl

/-- Setting one option leaves the others. -/
theorem setting_apply_of_ne (o : Options) (h : setting.key ≠ key) :
    (setting.apply o).setting key = o.setting key := by
  cases setting <;> cases key <;> first | rfl | exact absurd rfl h

/-! ## Items that name an option -/

/-- The option an item names, under any of its spellings. -/
def named? (item : List Char) : Option Key :=
  Key.ofName? (String.ofList (assignment item).1)

/-- The last of the items that names the option. -/
def lastNaming? (key : Key) (items : List (List Char)) : Option (List Char) :=
  (items.filter (named? · = some key)).getLast?

/-- An item that can be read sets the option it names. -/
theorem named?_of_readItem (h : readItem item = .ok setting) : named? item = some setting.key := by
  unfold readItem at h
  unfold named?
  cases hkey : Key.ofName? (String.ofList (assignment item).1) with
  | none => simp [hkey] at h
  | some key =>
    have hset : setting.key = key := by
      cases key <;> simp only [hkey] at h
      case mode =>
        cases hmode : Mode.read (assignment item).2 <;> simp [hmode, Except.map] at h
        rw [← h]
        rfl
      all_goals
        cases hon : readSwitch (String.ofList (assignment item).1) (assignment item).2 <;>
          simp [hon, Except.map] at h
        rw [← h]
        rfl
    rw [hset]

theorem lastNaming?_nil (key : Key) : lastNaming? key [] = none :=
  rfl

theorem lastNaming?_append (key : Key) (xs ys : List (List Char)) :
    lastNaming? key (xs ++ ys) = (lastNaming? key ys).or (lastNaming? key xs) := by
  simp only [lastNaming?, List.filter_append, List.getLast?_append]

theorem lastNaming?_cons (key : Key) (item : List Char) (rest : List (List Char)) :
    lastNaming? key (item :: rest) =
      (lastNaming? key rest).or (if named? item = some key then some item else none) := by
  have hrest := lastNaming?_append key [item] rest
  rw [List.singleton_append] at hrest
  rw [hrest]
  by_cases h : named? item = some key <;> simp [lastNaming?, h]

/-! ## Reading items -/

/-- What an option is set to by the item that decides it; without one it keeps the value it had. -/
def decided (o : Options) (key : Key) : Option (List Char) → Except Error Setting
  | some item => readItem item
  | none => .ok (o.setting key)

/-- Which item cannot be read does not depend on what was set before. -/
theorem readItems_eq_error_iff (o p : Options) (xs : List (List Char)) :
    readItems o xs = .error e ↔ readItems p xs = .error e := by
  induction xs generalizing o p with
  | nil => simp [readItems]
  | cons item rest ih =>
    cases hitem : readItem item with
    | error e' => simp [readItems, hitem]
    | ok setting =>
      simp only [readItems, hitem]
      exact ih (setting.apply o) (setting.apply p)

/-- The last item that names an option decides it. -/
theorem decided_of_readItems {xs : List (List Char)} (h : readItems o xs = .ok p) (key : Key) :
    decided o key (lastNaming? key xs) = .ok (p.setting key) := by
  induction xs generalizing o with
  | nil =>
    simp only [readItems, Except.ok.injEq] at h
    simp [lastNaming?_nil, decided, h]
  | cons item rest ih =>
    cases hitem : readItem item with
    | error e => simp [readItems, hitem] at h
    | ok setting =>
      have hrest : decided (setting.apply o) key (lastNaming? key rest) = .ok (p.setting key) :=
        ih (by simpa [readItems, hitem] using h)
      have hname : named? item = some setting.key := named?_of_readItem hitem
      rw [lastNaming?_cons]
      cases hlast : lastNaming? key rest with
      | some last =>
        rw [hlast] at hrest
        exact hrest
      | none =>
        rw [hlast] at hrest
        -- Nothing further on names the option, so this item decides it or does not touch it.
        by_cases hkey : setting.key = key
        · rw [if_pos (hkey ▸ hname), Option.none_or]
          simp only [decided, setting_apply_of_eq o hkey] at hrest
          exact hitem.trans hrest
        · rw [if_neg (by simpa [hname] using hkey), Option.none_or]
          simp only [decided, setting_apply_of_ne o hkey] at hrest
          exact hrest

/-! ## Written options -/

theorem items_written_mode (mode : Mode) :
    items ("deint=" ++ mode.name).toList = [("deint=" ++ mode.name).toList] := by
  cases mode <;> decide

theorem items_written_interlacedOnly (on : Bool) :
    items ("interlaced-only=" ++ yesNo on).toList = [("interlaced-only=" ++ yesNo on).toList] := by
  cases on <;> decide

theorem items_written_swapReferences (on : Bool) :
    items ("reversal-bug=" ++ yesNo on).toList = [("reversal-bug=" ++ yesNo on).toList] := by
  cases on <;> decide

theorem readItem_written_mode (mode : Mode) :
    readItem ("deint=" ++ mode.name).toList = .ok (.mode mode) := by
  cases mode <;> rfl

theorem readItem_written_interlacedOnly (on : Bool) :
    readItem ("interlaced-only=" ++ yesNo on).toList = .ok (.interlacedOnly on) := by
  cases on <;> rfl

theorem readItem_written_swapReferences (on : Bool) :
    readItem ("reversal-bug=" ++ yesNo on).toList = .ok (.swapReferences on) := by
  cases on <;> rfl

/-- Written options are three items, one for each option. -/
theorem items_toSuboptions (o : Options) :
    items o.toSuboptions.toList = [("deint=" ++ o.mode.name).toList,
      ("interlaced-only=" ++ yesNo o.interlacedOnly).toList,
      ("reversal-bug=" ++ yesNo o.swapReferences).toList] := by
  have htext : o.toSuboptions.toList = ("deint=" ++ o.mode.name).toList ++
      ':' :: (("interlaced-only=" ++ yesNo o.interlacedOnly).toList ++
        ':' :: ("reversal-bug=" ++ yesNo o.swapReferences).toList) := by
    simp [Options.toSuboptions]
  rw [htext, items_append_cons (by decide), items_append_cons (by decide), items_written_mode,
    items_written_interlacedOnly, items_written_swapReferences]
  rfl

/-- Written options set every option, whatever was set before. -/
theorem readItems_toSuboptions (o p : Options) :
    readItems p (items o.toSuboptions.toList) = .ok o := by
  rw [items_toSuboptions]
  simp only [readItems, readItem_written_mode, readItem_written_interlacedOnly,
    readItem_written_swapReferences, Setting.apply]

end Suboptions

open Suboptions

/-! ## Texts -/

/-- The second of two texts is read from where the first one left off. -/
theorem ofSuboptions_join {c : Char} (h : isSeparator c = true) (a b : String) :
    Options.ofSuboptions (a ++ String.singleton c ++ b) =
      (Options.ofSuboptions a).bind (readItems · (items b.toList)) := by
  have htext : (a ++ String.singleton c ++ b).toList = a.toList ++ c :: b.toList := by simp
  rw [Options.ofSuboptions, htext, items_append_cons h]
  exact readItems_append _ _ _

/-- Written options are read back. -/
theorem ofSuboptions_toSuboptions (o : Options) : Options.ofSuboptions o.toSuboptions = .ok o :=
  readItems_toSuboptions o {}

theorem isSeparator_of_eq {c : Char} (h : c = ':' ∨ c = ',') : isSeparator c = true := by
  rcases h with rfl | rfl <;> rfl

/-- Two texts with a separator between them fail where one of them does, with the error of the first
that fails. Where neither does, each option has the value that the last item naming it gives, of
the second text if it names the option and else of the first, and its default if neither names it.
So written options override any text before them, and what was read is what its written form
reads as. -/
theorem ofSuboptions_composes (a b : String) (c : Char) (hc : c = ':' ∨ c = ',') :
    (∀ e, Options.ofSuboptions (a ++ String.singleton c ++ b) = .error e ↔
      Options.ofSuboptions a = .error e ∨
        (∃ o, Options.ofSuboptions a = .ok o) ∧ Options.ofSuboptions b = .error e) ∧
    (∀ p q, Options.ofSuboptions a = .ok p → Options.ofSuboptions b = .ok q →
      ∃ o, Options.ofSuboptions (a ++ String.singleton c ++ b) = .ok o ∧
        ∀ key, decided {} key ((lastNaming? key (items b.toList)).or
          (lastNaming? key (items a.toList))) = .ok (o.setting key)) ∧
    (∀ p o, Options.ofSuboptions a = .ok p →
      Options.ofSuboptions (a ++ String.singleton c ++ o.toSuboptions) = .ok o) ∧
    ∀ p, Options.ofSuboptions a = .ok p →
      Options.ofSuboptions p.toSuboptions = Options.ofSuboptions a := by
  have hsep : isSeparator c = true := isSeparator_of_eq hc
  refine ⟨fun e => ?_, fun p q ha hb => ?_, fun p o ha => ?_, fun p ha => ?_⟩
  · rw [ofSuboptions_join hsep]
    cases ha : Options.ofSuboptions a with
    | error e' => simp [Except.bind]
    | ok p =>
      have hsecond : readItems p (items b.toList) = .error e ↔ Options.ofSuboptions b = .error e :=
        readItems_eq_error_iff p {} (items b.toList)
      simpa [Except.bind] using hsecond
  · have hjoined := ofSuboptions_join hsep a b
    rw [ha] at hjoined
    cases ho : readItems p (items b.toList) with
    | error e =>
      have hfails : Options.ofSuboptions b = .error e := (readItems_eq_error_iff p {} _).mp ho
      rw [hb] at hfails
      cases hfails
    | ok o =>
      have hread : Options.ofSuboptions (a ++ String.singleton c ++ b) = .ok o :=
        hjoined.trans ho
      refine ⟨o, hread, fun key => ?_⟩
      have hall : readItems {} (items a.toList ++ items b.toList) = .ok o := by
        have hfirst : readItems {} (items a.toList) = .ok p := ha
        rw [readItems_append, hfirst]
        exact ho
      rw [← lastNaming?_append]
      exact decided_of_readItems hall key
  · rw [ofSuboptions_join hsep, ha]
    exact readItems_toSuboptions o p
  · rw [ofSuboptions_toSuboptions, ha]

/-- A text with an ideographic space, an alias and a switch with a value, one with empty items and a
bare flag that overrides the mode only, and two that cannot be read. -/
theorem ofSuboptions_composes_overriding :
    (',' = ':' ∨ ',' = ',') ∧
    (∃ o, Options.ofSuboptions ("deint=weave:\u3000interlaced_only = No " ++ String.singleton ',' ++
        " deinterlace-algorithm = Motion-Adaptive ,, reversal_workaround") = .ok o ∧
      o.mode = .motionAdaptive ∧ o.interlacedOnly = false ∧ o.swapReferences = true) ∧
    Options.ofSuboptions ("deint=bob=" ++ String.singleton ',' ++ "speed") =
      .error (.invalidOption "unknown deint mode 'bob='") := by
  have hc : (',' = ':' ∨ ',' = ',') := .inr rfl
  have hover := ofSuboptions_composes "deint=weave:\u3000interlaced_only = No "
    " deinterlace-algorithm = Motion-Adaptive ,, reversal_workaround" ',' hc
  obtain ⟨o, ho, hkeys⟩ := hover.2.1
    { mode := .weave, interlacedOnly := false } { mode := .motionAdaptive } rfl rfl
  have hmode : Except.ok (.mode .motionAdaptive) = Except.ok (o.setting .mode) := hkeys .mode
  have honly : Except.ok (.interlacedOnly false) = Except.ok (o.setting .interlacedOnly) :=
    hkeys .interlacedOnly
  have hswap : Except.ok (.swapReferences true) = Except.ok (o.setting .swapReferences) :=
    hkeys .swapReferences
  simp only [Options.setting, Except.ok.injEq, Setting.mode.injEq, Setting.interlacedOnly.injEq,
    Setting.swapReferences.injEq] at hmode honly hswap
  have hfails := (ofSuboptions_composes "deint=bob=" "speed" ',' hc).1
    (.invalidOption "unknown deint mode 'bob='")
  exact ⟨hc, ⟨o, ho, hmode.symm, honly.symm, hswap.symm⟩, hfails.mpr (.inl rfl)⟩

end Deinterlace
