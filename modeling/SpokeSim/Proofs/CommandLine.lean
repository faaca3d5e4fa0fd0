import Mathlib
import SpokeSim.CommandLine.Parser

/-!
# Command lines, written and read

A command line is written as a list of *items*, each an option in one of its spellings.  The reader
knows no items: it goes from one argument to the next, and keeps a setting open until it sees
whether a value follows.

**Words.**  A word is taken for yes or for no just if it is one of the words for it, each letter in
either case (`truth?_eq_some_iff`).

**Reading.**  Whatever the items are, to read their arguments is to give one item after the other
(`readArgs_render`).  No item takes an argument of the next one, and none leaves one behind.

**Order.**  What an item says is an *entry*, and two entries come to the same in either order
(`add?_comm`).  So the order of the items matters neither for whether they are accepted nor for what
they set (`toOption_parse_of_perm`).

**Choices.**  It is enough, then, to read a choice in one order, and what is chosen is what is read
(`parse_render`).
-/

namespace SpokeSim.CommandLine

/-! ## Words for yes and no -/

/-- The words for an answer, in small letters. -/
def truthWords : Bool → List String
  | true => ["y", "yes", "t", "true", "on", "1"]
  | false => ["n", "no", "f", "false", "off", "0"]

/-- A text is a word in any mixture of cases: each of its characters is that of the word or the
capital of it. -/
def IsCasing (text word : String) : Prop :=
  List.Forall₂ (fun c d => c = d ∨ c = d.toUpper) text.toList word.toList

instance (text word : String) : Decidable (IsCasing text word) :=
  inferInstanceAs (Decidable (List.Forall₂ _ _ _))

lemma toLower_eq_iff {c d : Char} (hd : ¬d.isUpper) : c.toLower = d ↔ c = d ∨ c = d.toUpper := by
  constructor
  · rintro rfl
    by_cases hc : c.isUpper
    · right
      rw [Char.toUpper_toLower_eq_toUpper,
        Char.toUpper_eq_of_not_isLower (Char.not_isLower_of_isUpper hc)]
    · exact .inl (Char.toLower_eq_of_not_isUpper hc).symm
  · rintro (rfl | rfl)
    · exact Char.toLower_eq_of_not_isUpper hd
    · rw [Char.toLower_toUpper_eq_toLower, Char.toLower_eq_of_not_isUpper hd]

lemma forall₂_casing_iff {cs ds : List Char} (hds : ∀ d ∈ ds, ¬d.isUpper) :
    List.Forall₂ (fun c d => c = d ∨ c = d.toUpper) cs ds ↔ cs.map Char.toLower = ds := by
  induction ds generalizing cs with
  | nil => simp
  | cons d ds ih =>
    cases cs with
    | nil => simp
    | cons c cs =>
      rw [List.forall₂_cons, ih fun d hd => hds d (List.mem_cons_of_mem _ hd), List.map_cons,
        List.cons.injEq, toLower_eq_iff (hds d List.mem_cons_self)]

lemma exists_isCasing_iff {text : String} (yes : Bool) :
    (∃ word ∈ truthWords yes, IsCasing text word) ↔
      String.ofList (text.toList.map Char.toLower) ∈ truthWords yes := by
  have hsmall : ∀ word ∈ truthWords yes, word.toList.all (!·.isUpper) := by cases yes <;> decide
  have hcasing : ∀ word ∈ truthWords yes,
      (IsCasing text word ↔ String.ofList (text.toList.map Char.toLower) = word) := by
    intro word hword
    have hds : ∀ d ∈ word.toList, ¬d.isUpper := by simpa using hsmall word hword
    rw [IsCasing, forall₂_casing_iff hds, ← String.toList_inj, String.toList_ofList]
  constructor
  · rintro ⟨word, hword, htext⟩
    rwa [(hcasing word hword).1 htext]
  · exact fun hword => ⟨_, hword, (hcasing _ hword).2 rfl⟩

/-- **Which words are taken for yes, and which for no.** -/
lemma truth?_eq_some_iff {text : String} {yes : Bool} :
    truth? text = some yes ↔ ∃ word ∈ truthWords yes, IsCasing text word := by
  -- the words for yes are looked up first, which hides no word for no
  have hno : ∀ word ∈ noWords, word ∉ yesWords := by decide
  rw [exists_isCasing_iff, truth?]
  generalize String.ofList (text.toList.map Char.toLower) = word
  cases yes with
  | false =>
    show _ ↔ word ∈ noWords
    by_cases hword : word ∈ noWords
    · simp [hword, hno word hword]
    · simp [hword]
  | true =>
    show _ ↔ word ∈ yesWords
    simp

/-! ## Items -/

/-- How the value of a setting is written. -/
inductive Spelling where
  /-- In the argument of its option, behind an equals sign. -/
  | joined
  /-- As the next argument. -/
  | apart
deriving DecidableEq, Repr

/-- An option as it is written. -/
inductive Item where
  /-- A setting without a value. -/
  | bare (o : Setting)
  /-- A setting with a value. -/
  | valued (o : Setting) (value : String) (spelling : Spelling)
  | switch (o : Switch)
deriving DecidableEq, Repr

/-- The option of a setting. -/
def Setting.option : Setting → String
  | hubConfig => "--hub-config"
  | scope => "--prefix"
  | clean => "--clean"
  | logFile => "--log-file"

/-- The option of a switch. -/
def Switch.option : Switch → String
  | forgetDeleted => "--forget-deleted"
  | help => "--help"
  | version => "--version"

namespace Item

/-- The arguments of an item. -/
def args : Item → List String
  | bare o => [o.option]
  | valued o value .joined => [o.option ++ "=" ++ value]
  | valued o value .apart => [o.option, value]
  | switch o => [o.option]

/-- A value that is an argument of its own must not look like an option: it does not begin with a
hyphen, or is nothing but a hyphen. -/
def IsReadable : Item → Prop
  | valued _ value .apart => value.toList.head? = some '-' → value = "-"
  | bare _ | valued _ _ .joined | switch _ => True

instance : DecidablePred IsReadable
  | valued _ value .apart =>
    inferInstanceAs (Decidable (value.toList.head? = some '-' → value = "-"))
  | bare _ | valued _ _ .joined | switch _ => inferInstanceAs (Decidable True)

end Item

/-- The command line of some items. -/
def render (items : List Item) : List String := items.flatMap Item.args

/-- Give an item. -/
def Given.give (g : Given) : Item → Except Stop Given
  | .bare o => close g (some (o, none))
  | .valued o value _ => close g (some (o, some value))
  | .switch o => flip g o

/-! ## Names -/

namespace Setting

lemma option_eq (o : Setting) : o.option = "--" ++ o.name := by cases o <;> rfl

lemma name_ne_empty (o : Setting) : o.name ≠ "" := by cases o <;> decide

lemma equals_notMem_name (o : Setting) : '=' ∉ o.name.toList := by cases o <;> decide

lemma ofName?_name (o : Setting) : ofName? o.name = some o := by cases o <;> decide

end Setting

namespace Switch

lemma option_eq (o : Switch) : o.option = "--" ++ o.name := by cases o <;> rfl

lemma name_ne_empty (o : Switch) : o.name ≠ "" := by cases o <;> decide

lemma equals_notMem_name (o : Switch) : '=' ∉ o.name.toList := by cases o <;> decide

lemma ofName?_name (o : Switch) : ofName? o.name = some o := by cases o <;> decide

lemma setting_ofName?_name (o : Switch) : Setting.ofName? o.name = none := by cases o <;> decide

end Switch

lemma span_name {name rest : List Char} (hname : '=' ∉ name)
    (hrest : ∀ c ∈ rest.head?, c = '=') : (name ++ rest).span (· ≠ '=') = (name, rest) := by
  have hne : ∀ c ∈ name, decide (c ≠ '=') = true := fun c hc =>
    decide_eq_true (ne_of_mem_of_not_mem hc hname)
  rw [List.span_eq_takeWhile_dropWhile, List.takeWhile_append_of_pos hne,
    List.dropWhile_append_of_pos hne]
  cases rest with
  | nil => simp
  | cons c rest => simp [hrest c rfl]

lemma cutValue_name {name : String} (hname : '=' ∉ name.toList) :
    cutValue name.toList = (name, none) := by
  have hspan : (name.toList ++ []).span (· ≠ '=') = (name.toList, []) :=
    span_name hname (by simp)
  rw [List.append_nil] at hspan
  simp only [cutValue, hspan, String.ofList_toList]

/-- Only the first equals sign counts, so the value may have some too. -/
lemma cutValue_equals {name : String} (hname : '=' ∉ name.toList) (value : String) :
    cutValue (name ++ "=" ++ value).toList = (name, some value) := by
  have htext : (name ++ "=" ++ value).toList = name.toList ++ '=' :: value.toList := by
    simp [String.toList_append]
  have hspan : (name.toList ++ '=' :: value.toList).span (· ≠ '=') =
      (name.toList, '=' :: value.toList) := span_name hname (by simp)
  simp only [cutValue, htext, hspan, String.ofList_toList]

/-! ## Reading -/

section

variable {g : Given} {p : Pending} {args : List String}

lemma long_bare (o : Setting) :
    long g p o.name.toList = close g p >>= fun g => .ok (g, some (o, none)) := by
  simp only [long, cutValue_name o.equals_notMem_name, o.ofName?_name]
  rfl

lemma long_joined (o : Setting) (value : String) :
    long g p (o.name ++ "=" ++ value).toList =
      close g p >>= fun g => close g (some (o, some value)) >>= fun g => .ok (g, none) := by
  simp only [long, cutValue_equals o.equals_notMem_name, o.ofName?_name]
  rfl

lemma long_switch (o : Switch) :
    long g p o.name.toList = close g p >>= fun g => flip g o >>= fun g => .ok (g, none) := by
  simp only [long, cutValue_name o.equals_notMem_name, o.setting_ofName?_name, o.ofName?_name]
  rfl

lemma readArgs_cons {arg : String} (harg : arg ≠ "--") :
    readArgs g p (arg :: args) = readArg g p arg >>= fun r => readArgs r.1 r.2 args := by
  cases args <;> rw [readArgs, if_neg harg]

/-- A long option is read by what follows its hyphens. -/
lemma readArgs_long {text : String} (htext : text ≠ "") :
    readArgs g p (("--" ++ text) :: args) =
      long g p text.toList >>= fun r => readArgs r.1 r.2 args := by
  have hoption : "--" ++ text ≠ "--" := by simpa using htext
  have hread : readArg g p ("--" ++ text) = long g p text.toList := by
    rw [readArg, String.toList_append]
    rfl
  rw [readArgs_cons hoption, hread]

/-- An open setting takes the next argument, if that looks like no option. -/
lemma readArgs_value (o : Setting) {value : String}
    (hvalue : value.toList.head? = some '-' → value = "-") :
    readArgs g (some (o, none)) (value :: args) = readArgs g (some (o, some value)) args := by
  have hhyphen : ∀ c cs, value.toList ≠ '-' :: c :: cs := by
    intro c cs hcs
    rw [hvalue (by rw [hcs]; rfl)] at hcs
    cases hcs
  have hplain : readArg g (some (o, none)) value = .ok (g, some (o, some value)) := by
    unfold readArg
    split
    case h_1 hcs => exact absurd hcs (hhyphen _ _)
    case h_2 hcs => exact absurd hcs (hhyphen _ _)
    case h_3 => rfl
  have hne : value ≠ "--" := fun hvalue => hhyphen '-' [] (by rw [hvalue]; rfl)
  rw [readArgs_cons hne, hplain]
  rfl

/-- **Items are given one after the other**, behind the setting that was open. -/
lemma readArgs_render {items : List Item} (hreadable : ∀ it ∈ items, it.IsReadable) :
    readArgs g p (render items) = close g p >>= fun g => items.foldlM Given.give g := by
  -- what an item leaves open is closed by the rest, so the induction is over all open settings
  induction items generalizing g p with
  | nil => exact (bind_pure (close g p)).symm
  | cons it items ih =>
    have hrest : ∀ it ∈ items, it.IsReadable := fun it hit =>
      hreadable it (List.mem_cons_of_mem _ hit)
    rw [render, List.flatMap_cons, ← render]
    match it, hreadable it List.mem_cons_self with
    | .bare o, _ =>
      rw [Item.args, List.singleton_append, o.option_eq, readArgs_long o.name_ne_empty, long_bare,
        bind_assoc]
      exact bind_congr fun g => ih hrest
    | .valued o value .joined, _ =>
      have htext : o.option ++ "=" ++ value = "--" ++ (o.name ++ "=" ++ value) := by
        simp only [o.option_eq, String.append_assoc]
      rw [Item.args, List.singleton_append, htext, readArgs_long (by simp), long_joined]
      simp only [bind_assoc]
      exact bind_congr fun g => bind_congr fun g => ih hrest
    | .valued o value .apart, hvalue =>
      rw [Item.args, List.cons_append, List.singleton_append, o.option_eq,
        readArgs_long o.name_ne_empty, long_bare, bind_assoc]
      exact bind_congr fun g => (readArgs_value o hvalue).trans (ih hrest)
    | .switch o, _ =>
      rw [Item.args, List.singleton_append, o.option_eq, readArgs_long o.name_ne_empty,
        long_switch]
      simp only [bind_assoc]
      exact bind_congr fun g => bind_congr fun g => ih hrest

end

/-! ## Entries -/

/-- What an option says. -/
inductive Entry where
  | hubConfig (path : String)
  | scope (start : String)
  | clean (yes : Bool)
  | logFile (path : String)
  | forgetDeleted

/-- What an item says, if it can be understood. -/
def Item.entry? : Item → Option Entry
  | .bare .clean => some (.clean true)
  | .bare _ => none
  | .valued .hubConfig path _ => if path = "" then none else some (.hubConfig path)
  | .valued .scope start _ => some (.scope start)
  | .valued .clean word _ => (truth? word).map .clean
  | .valued .logFile path _ => if path = "" then none else some (.logFile path)
  | .switch .forgetDeleted => some .forgetDeleted
  | .switch _ => none

namespace Given

/-- What has been given with one more entry, unless there is one of its option already. -/
def add? (g : Given) : Entry → Option Given
  | .hubConfig path => if g.hubConfig.isSome then none else some { g with hubConfig := some path }
  | .scope start => if g.scope.isSome then none else some { g with scope := some start }
  | .clean yes => if g.clean.isSome then none else some { g with clean := some yes }
  | .logFile path => if g.logFile.isSome then none else some { g with logFile := some path }
  | .forgetDeleted => if g.forgetDeleted then none else some { g with forgetDeleted := true }

/-- Go on with what an item says, unless something is wrong about it or about one before. -/
def next? (g? : Option Given) (e? : Option Entry) : Option Given := g?.bind fun g => e?.bind g.add?

/-- What has been given for a setting, as an entry. -/
def entry? (g : Given) : Setting → Option Entry
  | .hubConfig => g.hubConfig.map .hubConfig
  | .scope => g.scope.map .scope
  | .clean => g.clean.map .clean
  | .logFile => g.logFile.map .logFile

/-- What has been given, as entries. -/
def entries (g : Given) : List Entry :=
  Setting.all.filterMap g.entry? ++ if g.forgetDeleted then [.forgetDeleted] else []

end Given

lemma toOption_mapError {ε ε' α : Type} (f : ε → ε') (r : Except ε α) :
    (r.mapError f).toOption = r.toOption := by
  cases r <;> rfl

lemma toOption_ite {ε α : Type} {c : Prop} [Decidable c] (e : ε) (r : Except ε α) :
    (if c then .error e else r).toOption = if c then none else r.toOption := by
  split <;> rfl

lemma toOption_close (g : Given) (o : Setting) (value : Option String) :
    (close g (some (o, value))).toOption =
      (value.or (Given.impliedValue? o)).bind fun value =>
        if g.has o then none else (g.put o value).toOption := by
  rw [close, toOption_mapError, Given.set]
  cases value.or (Given.impliedValue? o) with
  | none => rfl
  | some value => rw [toOption_ite, Option.bind_some]

/-- **To give an item is to add what it says.** -/
lemma toOption_give (g : Given) (it : Item) : (g.give it).toOption = it.entry?.bind g.add? := by
  cases it with
  | bare o =>
    rw [Given.give, toOption_close]
    cases o <;> rfl
  | valued o value spelling =>
    rw [Given.give, toOption_close, Option.some_or, Option.bind_some]
    cases o
    case scope => rfl
    case hubConfig | logFile =>
      simp only [Given.put, Item.entry?, toOption_ite]
      by_cases hempty : value = ""
      · simp only [if_pos hempty, ite_self, Option.bind_none]
      · simp only [if_neg hempty]
        rfl
    case clean =>
      simp only [Given.put, Item.entry?]
      cases truth? value with
      | none => exact ite_self _
      | some yes => rfl
  | switch o =>
    cases o with
    | forgetDeleted =>
      rw [Given.give, flip, toOption_mapError, Given.forget, toOption_ite]
      rfl
    | help => rfl
    | version => rfl

lemma toOption_foldlM_give (g : Given) (items : List Item) :
    (items.foldlM Given.give g).toOption =
      (items.map Item.entry?).foldl Given.next? (some g) := by
  -- which fault stops the fold may be forgotten at once or in the end
  rw [List.foldlM_eq_foldl, List.foldl_map]
  refine (List.foldl_hom Except.toOption fun r it => ?_).symm
  cases r with
  | error e => rfl
  | ok g => exact (toOption_give g it).symm

lemma toOption_parse_render {items : List Item} (hreadable : ∀ it ∈ items, it.IsReadable) :
    (parse (render items)).toOption =
      ((items.map Item.entry?).foldl Given.next? (some {})).map Given.settings := by
  rw [parse, readArgs_render hreadable, ← toOption_foldlM_give]
  show ((items.foldlM Given.give {}).map Given.settings).toOption = _
  cases items.foldlM Given.give {} <;> rfl

/-! ## Order -/

/-- **Two entries come to the same in either order**, or are too much in either. -/
lemma add?_comm (g : Given) (d e : Entry) :
    (g.add? d).bind (·.add? e) = (g.add? e).bind (·.add? d) := by
  -- entries of one option exclude each other, and those of two have different fields
  cases d <;> cases e <;> simp only [Given.add?] <;> split_ifs <;> simp [*]

lemma next?_comm (g? : Option Given) (d? e? : Option Entry) :
    Given.next? (Given.next? g? d?) e? = Given.next? (Given.next? g? e?) d? := by
  cases g? with
  | none => rfl
  | some g =>
    cases d? with
    | none => simp [Given.next?]
    | some d =>
      cases e? with
      | none => simp [Given.next?]
      | some e => exact add?_comm g d e

/-- **The order of the items does not matter**, neither for whether they are accepted nor for what
they set. -/
lemma toOption_parse_of_perm {items items' : List Item} (horder : items.Perm items')
    (hreadable : ∀ it ∈ items, it.IsReadable) :
    (parse (render items)).toOption = (parse (render items')).toOption := by
  have hreadable' : ∀ it ∈ items', it.IsReadable := fun it hit =>
    hreadable it (horder.mem_iff.2 hit)
  rw [toOption_parse_render hreadable, toOption_parse_render hreadable',
    (horder.map Item.entry?).foldl_eq' fun d? _ e? _ g? => next?_comm g? d? e?]

/-- What has been given is what its entries say, one after the other. -/
lemma foldlM_entries (g : Given) : g.entries.foldlM Given.add? {} = some g := by
  obtain ⟨hubConfig, scope, clean, logFile, forgetDeleted⟩ := g
  have hhub : (hubConfig.map Entry.hubConfig).toList.foldlM Given.add? {} =
      some { hubConfig } := by
    cases hubConfig <;> rfl
  have hscope : (scope.map Entry.scope).toList.foldlM Given.add? { hubConfig } =
      some { hubConfig, scope } := by
    cases scope <;> rfl
  have hclean : (clean.map Entry.clean).toList.foldlM Given.add? { hubConfig, scope } =
      some { hubConfig, scope, clean } := by
    cases clean <;> rfl
  have hlog : (logFile.map Entry.logFile).toList.foldlM Given.add? { hubConfig, scope, clean } =
      some { hubConfig, scope, clean, logFile } := by
    cases logFile <;> rfl
  simp only [Given.entries, Given.entry?, Setting.all, List.filterMap_eq_flatMap_toList,
    List.flatMap_cons, List.flatMap_nil, List.foldlM_append, List.foldlM_nil, Option.bind_eq_bind,
    Option.bind_some, hhub, hscope, hclean, hlog]
  cases forgetDeleted <;> rfl

lemma foldl_next?_entries (g : Given) :
    (g.entries.map some).foldl Given.next? (some {}) = some g := by
  rw [List.foldl_map, ← foldlM_entries g, List.foldlM_eq_foldl]
  rfl

/-! ## Choices -/

/-- A path that names a file. -/
abbrev Path := { path : String // path ≠ "" }

/-- A word for yes or for no. -/
structure TruthWord where
  /-- What it is a word for. -/
  yes : Bool
  text : String
  isCasing : ∃ word ∈ truthWords yes, IsCasing text word

/-- What is chosen on a command line. -/
structure Choice where
  hubConfig : Option Path := none
  scope : Option String := none
  /-- The word behind `clean`, if it is chosen and has one. -/
  clean : Option (Option TruthWord) := none
  logFile : Option Path := none
  forgetDeleted : Bool := false

namespace Choice

/-- What is set by a choice. -/
def settings (c : Choice) : Settings where
  hubConfig := c.hubConfig.map Subtype.val
  scope := c.scope.getD "spoke"
  clean := c.clean.elim false fun word? => word?.elim true TruthWord.yes
  logFile := c.logFile.map Subtype.val
  forgetDeleted := c.forgetDeleted

/-- How a choice of a setting is written, its value in some spelling. -/
def item? (c : Choice) (spelling : Spelling) : Setting → Option Item
  | .hubConfig => c.hubConfig.map fun path => .valued .hubConfig path spelling
  | .scope => c.scope.map fun start => .valued .scope start spelling
  | .clean => c.clean.map fun
    | none => .bare .clean
    | some word => .valued .clean word.text spelling
  | .logFile => c.logFile.map fun path => .valued .logFile path spelling

/-- The items of a choice, the value of each setting in its spelling. -/
def items (c : Choice) (spelling : Setting → Spelling) : List Item :=
  Setting.all.filterMap (fun o => c.item? (spelling o) o) ++
    if c.forgetDeleted then [.switch .forgetDeleted] else []

/-- What is given by a choice. -/
def given (c : Choice) : Given where
  hubConfig := c.hubConfig.map Subtype.val
  scope := c.scope
  clean := c.clean.map fun word? => word?.elim true TruthWord.yes
  logFile := c.logFile.map Subtype.val
  forgetDeleted := c.forgetDeleted

variable (c : Choice)

lemma settings_given : c.given.settings = c.settings := by
  rw [Given.settings, given, settings]
  cases c.clean <;> rfl

/-- What is written says what is chosen. -/
lemma map_entry?_item? (spelling : Spelling) (o : Setting) :
    (c.item? spelling o).map Item.entry? = (c.given.entry? o).map some := by
  rw [item?.eq_def, Given.entry?.eq_def, given]
  cases o with
  | hubConfig =>
    rcases c.hubConfig with _ | path
    · rfl
    · exact congrArg some (if_neg path.2)
  | scope => cases c.scope <;> rfl
  | logFile =>
    rcases c.logFile with _ | path
    · rfl
    · exact congrArg some (if_neg path.2)
  | clean =>
    rcases c.clean with _ | _ | word
    · rfl
    · rfl
    · have hword : truth? word.text = some word.yes := truth?_eq_some_iff.2 word.isCasing
      exact congrArg some (congrArg (Option.map Entry.clean) hword)

lemma map_entry?_items (spelling : Setting → Spelling) :
    (c.items spelling).map Item.entry? = c.given.entries.map some := by
  have hforget : c.given.forgetDeleted = c.forgetDeleted := rfl
  rw [items, Given.entries, List.map_append, List.map_append, List.map_filterMap,
    List.map_filterMap, hforget]
  simp only [map_entry?_item?]
  cases c.forgetDeleted <;> rfl

end Choice

/-- **What is chosen is what is read.**  Write the options of any choice in any order, and each
value either behind an equals sign or, if it looks like no option, as the next argument.  Such a
command line is accepted, and sets what is chosen, with the defaults for the rest; `clean` without a
word means yes, and deleted clusters are forgotten just if that is chosen. -/
theorem parse_render {c : Choice} {spelling : Setting → Spelling} {items : List Item}
    (horder : items.Perm (c.items spelling)) (hreadable : ∀ it ∈ items, it.IsReadable) :
    parse (render items) = .ok c.settings ∧
      (c.settings.policy = .forget ↔ c.forgetDeleted = true) := by
  have hreadable' : ∀ it ∈ c.items spelling, it.IsReadable := fun it hit =>
    hreadable it (horder.mem_iff.2 hit)
  have hread : (parse (render items)).toOption = some c.settings := by
    rw [toOption_parse_of_perm horder hreadable, toOption_parse_render hreadable',
      c.map_entry?_items, foldl_next?_entries, Option.map_some, c.settings_given]
  refine ⟨?accepted, ?policy⟩
  case accepted =>
    cases hparse : parse (render items) with
    | error stop => simp [hparse, Except.toOption] at hread
    | ok s =>
      rw [hparse] at hread
      exact congrArg Except.ok (Option.some.inj hread)
  case policy =>
    show (if c.forgetDeleted then SeenPolicy.forget else .retain) = .forget ↔ _
    cases c.forgetDeleted <;> simp

/-- A choice whose values look like other parts of a command line, or are empty. -/
def misleading : Choice where
  hubConfig := some ⟨"--clean=on", by decide⟩
  scope := some ""
  clean := some (some ⟨false, "oFf", by decide⟩)
  logFile := some ⟨"prefix=", by decide⟩
  forgetDeleted := true

/-- Its items in some order, two values apart. -/
def misleadingItems : List Item :=
  [.valued .clean "oFf" .apart, .valued .scope "" .apart, .switch .forgetDeleted,
    .valued .hubConfig "--clean=on" .joined, .valued .logFile "prefix=" .joined]

theorem parse_render_misleading :
    misleadingItems.Perm
      (misleading.items fun o => if o ∈ [.scope, .clean] then .apart else .joined) ∧
    (∀ it ∈ misleadingItems, it.IsReadable) ∧
    render misleadingItems =
      ["--clean", "oFf", "--prefix", "", "--forget-deleted", "--hub-config=--clean=on",
        "--log-file=prefix="] ∧
    ∃ s, parse (render misleadingItems) = .ok s ∧ s.hubConfig = some "--clean=on" ∧
      s.scope = "" ∧ s.clean = false ∧ s.logFile = some "prefix=" ∧ s.policy = .forget := by
  have horder : misleadingItems.Perm
      (misleading.items fun o => if o ∈ [.scope, .clean] then .apart else .joined) := by decide
  have hreadable : ∀ it ∈ misleadingItems, it.IsReadable := by decide
  obtain ⟨hparse, hpolicy⟩ := parse_render horder hreadable
  exact ⟨horder, hreadable, by decide, _, hparse, rfl, rfl, rfl, rfl, hpolicy.2 rfl⟩

end SpokeSim.CommandLine
