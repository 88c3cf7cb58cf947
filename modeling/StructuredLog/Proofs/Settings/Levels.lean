import Mathlib.Data.List.DropRight
import Mathlib.Data.List.Forall2
import StructuredLog.Settings.Source
import StructuredLog.Settings.Value

/-!
# Texts of levels

A level is given by one of its spellings, between any blanks and in capitals or not, wherever its
text comes from. Any other text is reported as it is, and settings that it should override stay as
they are.
-/

namespace StructuredLog

namespace Text

/-! ## Blanks -/

/-- Nothing but blanks is trimmed. -/
theorem exists_eq_append_trim (s : List Char) :
    ∃ lead tail, s = lead ++ trim s ++ tail ∧
      (∀ c ∈ lead, isBlank c = true) ∧ ∀ c ∈ tail, isBlank c = true := by
  refine ⟨s.takeWhile isBlank, (s.dropWhile isBlank).rtakeWhile isBlank, ?_, ?_, ?_⟩
  · have htrim : trim s = (s.dropWhile isBlank).rdropWhile isBlank := rfl
    rw [htrim, List.append_assoc, List.rdropWhile_append_rtakeWhile,
      List.takeWhile_append_dropWhile]
  · exact fun c => List.mem_takeWhile_imp
  · exact fun c => List.mem_rtakeWhile_imp

theorem dropWhile_eq_self {word : List Char} (h : ∀ c ∈ word, isBlank c = false) :
    word.dropWhile isBlank = word := by
  cases word with
  | nil => rfl
  | cons c word => exact List.dropWhile_cons_of_neg (by simp [h c])

/-- All blanks around a word are trimmed. -/
theorem trim_append {lead word tail : List Char} (hlead : ∀ c ∈ lead, isBlank c = true)
    (hword : ∀ c ∈ word, isBlank c = false) (htail : ∀ c ∈ tail, isBlank c = true) :
    trim (lead ++ word ++ tail) = word := by
  have hfront : (lead ++ word ++ tail).dropWhile isBlank = (word ++ tail).dropWhile isBlank := by
    rw [List.append_assoc, List.dropWhile_append_of_pos hlead]
  have hback : ((word ++ tail).reverse.dropWhile isBlank).reverse = word := by
    rw [List.reverse_append, List.dropWhile_append_of_pos (by simpa using htail),
      dropWhile_eq_self (by simpa using hword), List.reverse_reverse]
  rw [trim, hfront]
  cases word with
  | nil =>
    rw [List.nil_append, List.dropWhile_eq_nil_iff.mpr htail]
    rfl
  | cons c word =>
    rw [List.cons_append, List.dropWhile_cons_of_neg (by simp [hword c])]
    exact hback

/-! ## Capitals -/

theorem isLower_iff_toNat (c : Char) : c.isLower = true ↔ 97 ≤ c.toNat ∧ c.toNat ≤ 122 := by
  unfold Char.isLower
  simp [UInt32.le_iff_toNat_le]

theorem toNat_toLower (c : Char) :
    c.toLower.toNat = if 65 ≤ c.toNat ∧ c.toNat ≤ 90 then c.toNat + 32 else c.toNat := by
  unfold Char.toLower
  split
  next hc =>
    have hc : 65 ≤ c.toNat ∧ c.toNat ≤ 90 := by simpa [UInt32.le_iff_toNat_le] using hc
    have hval : (c.val + 32).toNat = (c.toNat + 32) % 2 ^ 32 := UInt32.toNat_add c.val 32
    rw [if_pos hc]
    exact hval.trans (Nat.mod_eq_of_lt (by omega))
  next hc => rw [if_neg (by simpa [UInt32.le_iff_toNat_le] using hc)]

theorem toNat_toUpper (c : Char) :
    c.toUpper.toNat = if 97 ≤ c.toNat ∧ c.toNat ≤ 122 then c.toNat - 32 else c.toNat := by
  unfold Char.toUpper
  split
  next hc =>
    have hc : 97 ≤ c.toNat ∧ c.toNat ≤ 122 := by simpa [UInt32.le_iff_toNat_le] using hc
    -- Subtracting 32 from a word is adding what it lacks to the next turn of the word.
    have hval : (c.val + ('A'.val - 'a'.val)).toNat = (c.toNat + (2 ^ 32 - 32)) % 2 ^ 32 :=
      UInt32.toNat_add c.val ('A'.val - 'a'.val)
    rw [if_pos hc]
    refine hval.trans ?_
    omega
  next hc => rw [if_neg (by simpa [UInt32.le_iff_toNat_le] using hc)]

theorem toLower_eq_iff {letter : Char} (h : letter.isLower = true) (c : Char) :
    c.toLower = letter ↔ c = letter ∨ c = letter.toUpper := by
  rw [isLower_iff_toNat] at h
  rw [← Char.toNat_inj, ← Char.toNat_inj, ← Char.toNat_inj, toNat_toLower, toNat_toUpper, if_pos h]
  split <;> omega

theorem isBlank_of_isLower_toLower {c : Char} (h : c.toLower.isLower = true) :
    isBlank c = false := by
  rw [isLower_iff_toNat, toNat_toLower] at h
  have hc : (65 ≤ c.toNat ∧ c.toNat ≤ 90) ∨ (97 ≤ c.toNat ∧ c.toNat ≤ 122) := by
    split at h <;> omega
  simp [isBlank]
  omega

/-- The text is the word between blanks, and each letter of the word may be a capital. -/
def Spells (s word : String) : Prop :=
  ∃ lead core tail : List Char, s.toList = lead ++ core ++ tail ∧
    (∀ c ∈ lead, isBlank c = true) ∧ (∀ c ∈ tail, isBlank c = true) ∧
    List.Forall₂ (fun c letter => c = letter ∨ c = letter.toUpper) core word.toList

theorem forall₂_letter_iff {core word : List Char} (h : ∀ letter ∈ word, letter.isLower = true) :
    List.Forall₂ (fun c letter => c = letter ∨ c = letter.toUpper) core word ↔
      core.map Char.toLower = word := by
  induction core generalizing word with
  | nil => cases word <;> simp
  | cons c core ih =>
    cases word with
    | nil => simp
    | cons letter word =>
      rw [List.forall_mem_cons] at h
      rw [List.forall₂_cons, ih h.2, List.map_cons, List.cons.injEq, toLower_eq_iff h.1]

theorem fold_eq_iff {word : String} (h : ∀ letter ∈ word.toList, letter.isLower = true)
    (s : String) : fold s = word ↔ Spells s word := by
  have hfold : fold s = word ↔ (trim s.toList).map Char.toLower = word.toList := by
    rw [fold, ← String.toList_inj, String.toList_ofList]
  rw [hfold]
  constructor
  · intro hs
    obtain ⟨lead, tail, hsplit, hlead, htail⟩ := exists_eq_append_trim s.toList
    exact ⟨lead, trim s.toList, tail, hsplit, hlead, htail, (forall₂_letter_iff h).mpr hs⟩
  · rintro ⟨lead, core, tail, hsplit, hlead, htail, hcore⟩
    rw [forall₂_letter_iff h] at hcore
    have hblank : ∀ c ∈ core, isBlank c = false := by
      intro c hc
      apply isBlank_of_isLower_toLower
      apply h
      rw [← hcore]
      exact List.mem_map_of_mem hc
    rw [hsplit, trim_append hlead hblank htail, hcore]

end Text

/-! ## Spellings -/

namespace Level

theorem isLower_of_mem_spellings {l : Level} {word : String} (h : word ∈ l.spellings) :
    ∀ letter ∈ word.toList, letter.isLower = true := by
  have hall : ∀ word ∈ l.spellings, ∀ letter ∈ word.toList, letter.isLower = true := by
    cases l <;> simp [spellings]
  exact hall word h

theorem fold_mem_spellings_iff (s : String) (l : Level) :
    Text.fold s ∈ l.spellings ↔ ∃ word ∈ l.spellings, Text.Spells s word := by
  constructor
  · intro h
    exact ⟨_, h, (Text.fold_eq_iff (isLower_of_mem_spellings h) s).mp rfl⟩
  · rintro ⟨word, hword, hs⟩
    rwa [(Text.fold_eq_iff (isLower_of_mem_spellings hword) s).mpr hs]

/-- No two levels share a spelling. -/
theorem eq_of_mem_spellings {a b : Level} {word : String} (ha : word ∈ a.spellings)
    (hb : word ∈ b.spellings) : a = b := by
  have hdisjoint : ∀ word ∈ a.spellings, word ∈ b.spellings → a = b := by
    cases a <;> cases b <;> decide
  exact hdisjoint word ha hb

theorem mem_all (l : Level) : l ∈ all := by
  cases l <;> decide

theorem parse?_eq_some_iff (s : String) (l : Level) :
    parse? s = some l ↔ Text.fold s ∈ l.spellings := by
  constructor
  · intro h
    simpa using List.find?_some h
  · intro h
    cases hs : parse? s with
    | none =>
      rw [parse?, List.find?_eq_none] at hs
      simpa [h] using hs l (mem_all l)
    | some other =>
      have hother : Text.fold s ∈ other.spellings := by simpa using List.find?_some hs
      rw [eq_of_mem_spellings hother h]

/-! ## Ways to give a level -/

theorem levelOfNode_scalar (field? : Option Settings.Field) (throughAlias : Bool)
    (anchor : Option Nat) (tag : Option Yaml.Tag) (style : Yaml.Style) (s : String) :
    Settings.levelOfNode ⟨field?, throughAlias, .scalar anchor tag style s⟩ =
      match parse? s with
      | some l => .ok l
      | none => .error (.unknownLevel s) := by
  cases h : parse? s <;> simp [Settings.levelOfNode, h]

theorem run_applyOverride (s : String) (settings : Settings) :
    (Settings.applyOverride (some s)).run.run settings =
      match parse? s with
      | some l => (.ok (), { settings with minLevel := l })
      | none => (.error (.invalidLevel s), settings) := by
  rw [Settings.applyOverride, parse]
  cases parse? s <;> rfl

/-- Every way to give a level takes the text for this one exactly if it folds to a spelling of it.
As an override of settings it sets their minimum level and nothing else. -/
structure ReadAlike (s : String) (l : Level) : Prop where
  parse_iff : parse s = .ok l ↔ Text.fold s ∈ l.spellings
  levelOfJson_iff : Settings.levelOfJson (.str s) = .ok l ↔ Text.fold s ∈ l.spellings
  levelOfNode_iff : ∀ field? throughAlias anchor tag style,
    Settings.levelOfNode ⟨field?, throughAlias, .scalar anchor tag style s⟩ = .ok l ↔
      Text.fold s ∈ l.spellings
  applyOverride_iff : ∀ settings : Settings,
    (Settings.applyOverride (some s)).run.run settings =
      (.ok (), { settings with minLevel := l }) ↔ Text.fold s ∈ l.spellings
  withOverride_iff : ∀ settings : Settings,
    settings.withOverride (some s) = .ok { settings with minLevel := l } ↔
      Text.fold s ∈ l.spellings

/-- Every way to give a level refuses the text and reports it as it is. As an override it leaves
all settings as they are. -/
structure RefusedAlike (s : String) : Prop where
  parse_eq : parse s = .error (.invalidLevel s)
  levelOfJson_eq : Settings.levelOfJson (.str s) = .error (.unknownLevel s)
  levelOfNode_eq : ∀ field? throughAlias anchor tag style,
    Settings.levelOfNode ⟨field?, throughAlias, .scalar anchor tag style s⟩ =
      .error (.unknownLevel s)
  applyOverride_eq : ∀ settings : Settings,
    (Settings.applyOverride (some s)).run.run settings = (.error (.invalidLevel s), settings)
  withOverride_eq : ∀ settings : Settings,
    settings.withOverride (some s) = .error (.invalidLevel s)

theorem readAlike (s : String) (l : Level) : ReadAlike s l := by
  have hfold := parse?_eq_some_iff s l
  refine ⟨?_, ?_, ?_, ?_, ?_⟩
  · rw [← hfold, parse]
    cases parse? s <;> simp
  · rw [← hfold, Settings.levelOfJson]
    cases parse? s <;> simp
  · intro field? throughAlias anchor tag style
    rw [← hfold, levelOfNode_scalar]
    cases parse? s <;> simp
  · intro settings
    rw [← hfold, run_applyOverride]
    cases parse? s with
    | none => exact ⟨nofun, nofun⟩
    | some other =>
      constructor
      · intro h
        cases h
        rfl
      · rintro ⟨⟩
        rfl
  · intro settings
    rw [← hfold, Settings.withOverride, run_applyOverride]
    cases parse? s <;> simp

theorem refusedAlike {s : String} (h : parse? s = none) : RefusedAlike s := by
  refine ⟨?_, ?_, ?_, ?_, ?_⟩
  · rw [parse, h]
  · rw [Settings.levelOfJson, h]
  · intro field? throughAlias anchor tag style
    rw [levelOfNode_scalar, h]
  · intro settings
    rw [run_applyOverride, h]
  · intro settings
    rw [Settings.withOverride, run_applyOverride, h]

/-- A text is taken for a level, be it given by itself, in JSON, in YAML or as an override of
settings, exactly if what is left of it without the blanks around it, in lower case, is one of the
level's spellings. These are the spellings with any blanks around them and with any of their ASCII
letters as capitals. Every other text is refused as it stands. -/
theorem texts_read_alike (s : String) :
    (∀ l, ReadAlike s l) ∧
    (∀ l : Level, Text.fold s ∈ l.spellings ↔ ∃ word ∈ l.spellings, Text.Spells s word) ∧
    ((∃ l : Level, Text.fold s ∈ l.spellings) ∨ RefusedAlike s) := by
  refine ⟨readAlike s, fold_mem_spellings_iff s, ?_⟩
  cases h : parse? s with
  | some l => exact .inl ⟨l, (parse?_eq_some_iff s l).mp h⟩
  | none => exact .inr (refusedAlike h)

/-- Every spelling in capitals, between a wide blank and a no-break space, is taken for its level.
A spelling with a letter too many is refused, and so is one with a letter beyond ASCII. -/
theorem texts_read_alike_capitals :
    let capitals (word : String) : String :=
      String.ofList ('\u3000' :: word.toList.map Char.toUpper ++ ['\u00a0'])
    (∀ l : Level, ∀ word ∈ l.spellings,
      parse (capitals word) = .ok l ∧ Settings.levelOfJson (.str (capitals word)) = .ok l ∧
      Settings.levelOfNode ⟨none, false, .scalar none none .quoted (capitals word)⟩ = .ok l ∧
      ∀ settings : Settings,
        settings.withOverride (some (capitals word)) = .ok { settings with minLevel := l }) ∧
    parse "warnings" = .error (.invalidLevel "warnings") ∧
    Settings.levelOfJson (.str "ınfo") = .error (.unknownLevel "ınfo") := by
  intro capitals
  refine ⟨?_, ?_, ?_⟩
  · intro l word hword
    obtain ⟨hread, hspells, -⟩ := texts_read_alike (capitals word)
    have hcapitals : Text.Spells (capitals word) word := by
      refine ⟨['\u3000'], word.toList.map Char.toUpper, ['\u00a0'], String.toList_ofList,
        List.forall_mem_singleton.mpr rfl, List.forall_mem_singleton.mpr rfl, ?_⟩
      rw [List.forall₂_map_left_iff]
      exact List.forall₂_same.mpr fun letter _ => .inr rfl
    have hfold : Text.fold (capitals word) ∈ l.spellings := (hspells l).mpr ⟨word, hword, hcapitals⟩
    exact ⟨(hread l).parse_iff.mpr hfold, (hread l).levelOfJson_iff.mpr hfold,
      ((hread l).levelOfNode_iff ..).mpr hfold,
      fun settings => ((hread l).withOverride_iff settings).mpr hfold⟩
  · refine ((texts_read_alike "warnings").2.2.resolve_left ?_).parse_eq
    rintro ⟨l, hl⟩
    revert hl
    cases l <;> decide
  · refine ((texts_read_alike "ınfo").2.2.resolve_left ?_).levelOfJson_eq
    rintro ⟨l, hl⟩
    revert hl
    cases l <;> decide

end Level

end StructuredLog
