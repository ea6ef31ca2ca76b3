/-
Options on a command line.

An option with a value is written in one argument, with an equals sign, or in two. In one argument
the value may be any text. In two it has to be a plain word, or else it would be taken for an option
itself (`Given`). Either way the arguments are understood one option at a time, since what an
argument is does not depend on those around it, and since the reader consumes exactly the words of
the option in front of it (`classifyAll_words`, `read_classified`).

So a list of options is always understood, and it comes to what its options set, from first to last
(`read_flatMap`, `parse_config`). They set no path of settings and do not ask for a file to be made,
so that these can be looked at apart from them (`foldl_give`).
-/
import ApiOutline.Command.Arguments
import ApiOutline.Proofs.Settings

set_option autoImplicit false

namespace ApiOutline

/-! ## Arguments with an equals sign -/

/-- A text is cut at the first mark, so what is in front of a mark is had back if it has none
itself. -/
theorem Text.cutAt_append {mark : Char} {cs : List Char} (h : mark ∉ cs) (rest : List Char) :
    Text.cutAt? [mark] (cs ++ mark :: rest) = some (cs, rest) := by
  induction cs with
  | nil =>
    rw [List.nil_append, Text.cutAt?, Text.after?, if_pos rfl]
    rfl
  | cons c cs ih =>
    rw [List.mem_cons, not_or] at h
    rw [List.cons_append, Text.cutAt?, Text.after?, if_neg h.1, ih h.2]
    rfl

namespace Command

/-- No flag has an equals sign in its name. -/
theorem equals_not_mem_names : ∀ e ∈ Flag.names, '=' ∉ e.1.toList := by
  decide

/-- A flag that is found by a name has that name. -/
theorem mem_names_of_ofName {name : String} {f : Flag} (h : Flag.ofName? name = some f) :
    (name, f) ∈ Flag.names := by
  obtain ⟨before, behind, hnames, -⟩ := List.lookup_eq_some_iff.1 h
  rw [hnames]
  exact List.mem_append_right _ List.mem_cons_self

/-- So an argument with an equals sign in it is not the name of a flag. -/
theorem ofName_of_equals {argument : String} (h : '=' ∈ argument.toList) :
    Flag.ofName? argument = none := by
  rw [Flag.ofName?, List.lookup_eq_none_iff]
  intro e he
  rw [bne_iff_ne]
  rintro rfl
  exact equals_not_mem_names e he h

/-- A long name, an equals sign and a value. No name has an equals sign in it. So the argument as
a whole is no name, and it is cut behind the name, whatever the value is. -/
theorem classify_joined {name : String} {f : Flag} (hname : Flag.ofName? name = some f)
    (hlong : ∃ c d rest, name.toList = '-' :: c :: d :: rest) (value : String) :
    classify (name ++ "=" ++ value) = .ok (.flag f (some value)) := by
  obtain ⟨c, d, rest, hdashes⟩ := hlong
  have hlist : (name ++ "=" ++ value).toList = name.toList ++ '=' :: value.toList := by
    rw [String.toList_append, String.toList_append, List.append_assoc]
    rfl
  have hequals : '=' ∉ name.toList := equals_not_mem_names _ (mem_names_of_ofName hname)
  have hat : atEquals (name ++ "=" ++ value) = (name, some value) := by
    rw [atEquals, hlist, Text.cutAt_append hequals]
    dsimp only
    rw [String.ofList_toList, String.ofList_toList]
  -- the argument as a whole is no name of a flag
  have hwhole : Flag.ofName? (name ++ "=" ++ value) = none :=
    ofName_of_equals (by rw [hlist]; exact List.mem_append_right _ List.mem_cons_self)
  unfold classify
  rw [hwhole, hat, hlist, hdashes, List.cons_append, List.cons_append]
  dsimp only
  rw [hname]
  dsimp only
  rw [hdashes, if_neg (by simp)]
  rfl

/-! ## Options -/

/-- Options that set something. -/
inductive Setting where
  | spec
  | output
  | moduleName
  | serviceName
  | host
  | schema
  deriving DecidableEq, Repr

namespace Setting

def flag : Setting → Flag
  | .spec => .spec
  | .output => .output
  | .moduleName => .moduleName
  | .serviceName => .serviceName
  | .host => .host
  | .schema => .schema

/-- The long name of an option. -/
def name : Setting → String
  | .spec => "--spec"
  | .output => "--output"
  | .moduleName => "--module-name"
  | .serviceName => "--service-name"
  | .host => "--host"
  | .schema => "--schema"

end Setting

/-- An option that was given. A value in an argument of its own is a plain word. -/
inductive Given where
  | joined (o : Setting) (value : String)
  | apart (o : Setting) (value : String) (hvalue : classify value = .ok .plain)
  | strictRefs

namespace Given

/-- The arguments of an option. -/
def words : Given → List String
  | .joined o value => [o.name ++ "=" ++ value]
  | .apart o value _ => [o.name, value]
  | .strictRefs => ["--strict-refs"]

/-- The arguments of an option, each with what it is. -/
def classified : Given → List (String × Word)
  | .joined o value => [(o.name ++ "=" ++ value, .flag o.flag (some value))]
  | .apart o value _ => [(o.name, .flag o.flag none), (value, .plain)]
  | .strictRefs => [("--strict-refs", .flag .strictRefs none)]

/-- What an option comes to. -/
def give (a : Arguments) : Given → Arguments
  | .joined o value => a.set o.flag value
  | .apart o value _ => a.set o.flag value
  | .strictRefs => a.turnOn .strictRefs

end Given

/-! ## What arguments are -/

/-- An argument that is not the pair of hyphens is taken for itself. -/
theorem classifyAll_cons {argument : String} (h : argument ≠ "--") (rest : List String) :
    classifyAll (argument :: rest) =
      (classify argument).bind fun word =>
        (classifyAll rest).map fun words => (argument, word) :: words := by
  rw [classifyAll.eq_3 _ _ h]
  cases classify argument with
  | error m => rfl
  | ok word =>
    cases classifyAll rest with
    | error m => rfl
    | ok words => rfl

/-- A switch is turned on, whatever stands behind it. -/
theorem read_switch {f : Flag} (hvalue : f.takesValue = false) (hhelp : f ≠ .help) (a : Arguments)
    (unknown : List String) (argument : String) (rest : List (String × Word)) :
    read a unknown ((argument, .flag f none) :: rest) = read (a.turnOn f) unknown rest := by
  have hvalue' : ¬ f.takesValue = true := by
    rw [hvalue]
    exact Bool.false_ne_true
  by_cases hplain : ∃ value more, rest = (value, .plain) :: more
  · obtain ⟨value, more, rfl⟩ := hplain
    rw [read.eq_3, if_neg hvalue', if_neg hhelp]
  · rw [read.eq_4 _ _ _ _ _ fun value more h => hplain ⟨value, more, h⟩, if_neg hvalue',
      if_neg hhelp]

/-- A plain word is not the pair of hyphens, behind which nothing is an option. -/
theorem ne_separator_of_plain {value : String} (h : classify value = .ok .plain) :
    value ≠ "--" := by
  rintro rfl
  exact nomatch h

/-- A flag and a value behind it. -/
theorem classifyAll_apart {name value : String} {f : Flag} (hname : name ≠ "--")
    (hflag : classify name = .ok (.flag f none)) (hvalue : classify value = .ok .plain)
    (rest : List String) :
    classifyAll (name :: value :: rest) =
      (classifyAll rest).map fun words => (name, .flag f none) :: (value, .plain) :: words := by
  rw [classifyAll_cons hname, classifyAll_cons (ne_separator_of_plain hvalue), hflag, hvalue]
  cases classifyAll rest with
  | error m => rfl
  | ok words => rfl

namespace Given

/-- **An option is understood whatever stands behind it.** In one argument with its name a value
may be any text. In an argument of its own it is a plain word, so that it is not taken for
anything else. -/
theorem classifyAll_words (g : Given) (rest : List String) :
    classifyAll (g.words ++ rest) = (classifyAll rest).map (g.classified ++ ·) := by
  cases g with
  -- in one argument, whatever the value is
  | joined o value =>
    have hclassify : classify (o.name ++ "=" ++ value) = .ok (.flag o.flag (some value)) := by
      apply classify_joined
      · cases o <;> rfl
      · cases o <;> exact ⟨_, _, _, rfl⟩
    have hne : o.name ++ "=" ++ value ≠ "--" := fun h => by
      rw [h] at hclassify
      exact nomatch hclassify
    change classifyAll ((o.name ++ "=" ++ value) :: rest) = _
    rw [classifyAll_cons hne, hclassify]
    rfl
  | apart o value hvalue =>
    refine classifyAll_apart ?_ ?_ hvalue rest
    · cases o <;> decide
    · cases o <;> rfl
  | strictRefs =>
    change classifyAll ("--strict-refs" :: rest) = _
    rw [classifyAll_cons (by decide)]
    rfl

/-- The arguments of several options are understood one option after the other. -/
theorem classifyAll_flatMap (gs : List Given) :
    classifyAll (gs.flatMap words) = .ok (gs.flatMap classified) := by
  induction gs with
  | nil => rfl
  | cons g gs ih =>
    rw [List.flatMap_cons, classifyAll_words, ih, List.flatMap_cons]
    rfl

/-! ## What they come to -/

/-- The reader consumes the words of an option and does what it comes to. -/
theorem read_classified (g : Given) (a : Arguments) (unknown : List String)
    (rest : List (String × Word)) :
    read a unknown (g.classified ++ rest) = read (g.give a) unknown rest := by
  cases g with
  | joined o value => cases o <;> rfl
  | apart o value hvalue => cases o <;> rfl
  | strictRefs => exact read_switch rfl (by decide) a unknown _ rest

/-- **Options come to what they set, from first to last.** By induction on the list, for any
arguments that were read before. -/
theorem read_flatMap (gs : List Given) (a : Arguments) :
    read a [] (gs.flatMap classified) = .ok (.run (gs.foldl give a)) := by
  induction gs generalizing a with
  | nil => rfl
  | cons g gs ih => rw [List.flatMap_cons, read_classified, ih, List.foldl_cons]

/-- The settings after an option. -/
def set (s : Settings) (g : Given) : Settings := (g.give { given := s }).given

/-- The settings that options make, from the first to the last. -/
def settings (gs : List Given) : Settings := gs.foldl set {}

/-- Options do nothing but set something. The path of settings and the wish for a file stay as
they are. -/
theorem foldl_give (gs : List Given) (a : Arguments) :
    gs.foldl give a = { a with given := gs.foldl set a.given } := by
  induction gs generalizing a with
  | nil => rfl
  | cons g gs ih =>
    have hgive : g.give a = { a with given := set a.given g } := by
      cases g with
      | joined o value => cases o <;> rfl
      | apart o value hvalue => cases o <;> rfl
      | strictRefs => rfl
    rw [List.foldl_cons, ih, hgive, List.foldl_cons]

/-- Two hyphens set nothing, everything else sets a text. -/
theorem isTextOrNull_value (v : String) :
    (if v = "--" then Value.null else .str v).IsTextOrNull := by
  by_cases h : v = "--"
  · rw [if_pos h]
    exact .inl rfl
  · rw [if_neg h]
    exact .inr ⟨v, rfl⟩

/-- An option with a value sets a text, or nothing if the value is the pair of hyphens, so the
settings stay of the right types. -/
theorem wellTyped_set_flag {s : Settings} (h : s.WellTyped) (o : Setting) (value : String) :
    ((Arguments.set { given := s } o.flag value).given).WellTyped := by
  have hvalue := isTextOrNull_value value
  cases o with
  | spec => exact { h with spec := hvalue }
  | output => exact { h with output := hvalue }
  | moduleName => exact { h with moduleName := hvalue }
  | serviceName => exact { h with serviceName := hvalue }
  | host => exact { h with host := hvalue }
  | schema => exact { h with schema := hvalue }

/-- Settings that options make are of the right types, because a value on a command line is a
text, and the switch can only be turned on. -/
theorem wellTyped_settings (gs : List Given) : (settings gs).WellTyped := by
  have hstep : ∀ (s : Settings) (g : Given), s.WellTyped → (set s g).WellTyped := by
    intro s g h
    cases g with
    | joined o value => exact wellTyped_set_flag h o value
    | apart o value hvalue => exact wellTyped_set_flag h o value
    | strictRefs => exact { h with strictRefs := ⟨true, rfl⟩ }
  have hall : ∀ s : Settings, s.WellTyped → (gs.foldl set s).WellTyped := by
    induction gs with
    | nil => exact fun s h => h
    | cons g gs ih => exact fun s h => ih (set s g) (hstep s g h)
  exact hall {} Settings.wellTyped_default

end Given

/-! ## The file with the settings -/

/-- A path of settings and options behind it are understood together. -/
theorem classifyAll_config {c : String} (hc : classify c = .ok .plain) (gs : List Given) :
    classifyAll ("--config" :: c :: gs.flatMap Given.words) =
      .ok (("--config", .flag .config none) :: (c, .plain) :: gs.flatMap Given.classified) := by
  rw [classifyAll_apart (by decide) rfl hc, Given.classifyAll_flatMap]
  rfl

/-- The path of settings is read first, and nothing behind it sets another one. -/
theorem read_config {c : String} (hc : c ≠ "--") (a : Arguments) (gs : List Given) :
    read a [] (("--config", .flag .config none) :: (c, .plain) :: gs.flatMap Given.classified) =
      .ok (.run { a with given := gs.foldl Given.set a.given, config := some c }) := by
  have hset : a.set .config c = { a with config := some c } := by
    unfold Arguments.set
    dsimp only
    rw [if_neg hc]
  have hvalue : Flag.config.takesValue = true := rfl
  rw [read.eq_3, if_pos hvalue, Given.read_flatMap, Given.foldl_give, hset]

/-- **Options behind a path of settings are understood.** -/
theorem parse_config {c : String} (hc : classify c = .ok .plain) (gs : List Given) :
    parse (["--config", c] ++ gs.flatMap Given.words) =
      .ok (.run { given := Given.settings gs, config := some c }) := by
  rw [parse, List.cons_append, List.singleton_append, classifyAll_config hc]
  exact read_config (ne_separator_of_plain hc) {} gs

/-- The same with the wish that a file be made of them. -/
theorem parse_initConfig {c : String} (hc : classify c = .ok .plain) (gs : List Given) :
    parse (["--init-config", "--config", c] ++ gs.flatMap Given.words) =
      .ok (.run { given := Given.settings gs, config := some c, initConfig := true }) := by
  have hswitch : classify "--init-config" = .ok (.flag .initConfig none) := rfl
  rw [parse, List.cons_append, List.cons_append, List.singleton_append,
    classifyAll_cons (by decide), hswitch, classifyAll_config hc]
  refine (read_switch rfl (by decide) {} [] "--init-config" _).trans ?_
  exact read_config (ne_separator_of_plain hc) _ gs

/-- **A path of settings that is no plain word is none**, and all arguments with it are in vain. -/
theorem misuse_of_config {c : String} (hc : classify c ≠ .ok .plain) (a : Arguments)
    (rest : List String) :
    ∃ m, (classifyAll ("--config" :: c :: rest)).bind (read a []) = .error m := by
  -- the flag wants a value, and what stands behind it is none
  have hmissing : ∀ ws : List (String × Word), (∀ v more, ws = (v, .plain) :: more → False) →
      read a [] (("--config", .flag .config none) :: ws) = .error (.missingValue .config) := by
    intro ws hws
    have hvalue : Flag.config.takesValue = true := rfl
    rw [read.eq_4 _ _ _ _ _ hws, if_pos hvalue]
  have hflag : classify "--config" = .ok (.flag .config none) := rfl
  rw [classifyAll_cons (by decide), hflag]
  by_cases hseparator : c = "--"
  · rw [hseparator, classifyAll]
    exact ⟨_, hmissing _ fun v more h => nomatch h⟩
  · rw [classifyAll_cons hseparator]
    cases hword : classify c with
    | error m => exact ⟨m, rfl⟩
    | ok word =>
      cases hrest : classifyAll rest with
      | error m => exact ⟨m, rfl⟩
      | ok words =>
        refine ⟨_, hmissing _ fun v more h => hc ?_⟩
        rw [hword, (Prod.mk.inj (List.cons.inj h).1).2]

end Command

end ApiOutline
