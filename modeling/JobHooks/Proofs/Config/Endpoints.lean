import JobHooks.Config.Validate
import Mathlib.Data.List.Infix

/-!
# The forms of an endpoint

The path of a socket may stand alone or behind one of two schemes, with blanks around it.
`Endpoint.socketPath_of_form` says when the path of a form is the path that was written: always
behind the long scheme, and otherwise as long as the sign that ends a scheme does not occur in the
path.  Behind the short scheme the path must not begin with two slashes either: these and the short
scheme are the long one, which counts first.  What is read then is the path behind the two slashes
(`Endpoint.socketPath_of_slashes`).
-/

namespace JobHooks

set_option autoImplicit false

/-! ## Trimming -/

namespace Text

theorem dropWhile_blank_append {front rest : List Char}
    (before : ∀ character ∈ front, isBlank character)
    (first : ∀ character ∈ rest.head?, isBlank character = false) :
    (front ++ rest).dropWhile isBlank = rest := by
  rw [List.dropWhile_append_of_pos before]
  cases rest with
  | nil => rfl
  | cons next rest => simp [first next rfl]

/-- Blanks around characters are taken away if there are no more of them inside. -/
theorem trim_between {front characters back : List Char}
    (before : ∀ character ∈ front, isBlank character)
    (behind : ∀ character ∈ back, isBlank character) (some : characters ≠ [])
    (first : ∀ character ∈ characters.head?, isBlank character = false)
    (last : ∀ character ∈ characters.getLast?, isBlank character = false) :
    trim (front ++ characters ++ back) = characters := by
  have left : trimLeft (front ++ characters ++ back) = characters ++ back := by
    rw [trimLeft, List.append_assoc]
    apply dropWhile_blank_append before
    rwa [List.head?_append_of_ne_nil _ some]
  have right : (back.reverse ++ characters.reverse).dropWhile isBlank = characters.reverse := by
    apply dropWhile_blank_append
    · simpa using behind
    · rwa [List.head?_reverse]
  rw [trim, left, trimRight, List.reverse_append, right, List.reverse_reverse]

end Text

/-! ## Schemes -/

namespace Endpoint

theorem behind?_append (scheme path : List Char) : behind? scheme (scheme ++ path) = some path := by
  have fits : scheme.isPrefixOf (scheme ++ path) :=
    List.isPrefixOf_iff_prefix.mpr (List.prefix_append scheme path)
  simp [behind?, fits]

/-- The sign is found exactly where it occurs. -/
theorem hasSchemeSign_iff {characters : List Char} :
    hasSchemeSign characters ↔ [':', '/', '/'] <:+: characters := by
  induction characters with
  | nil => simp [hasSchemeSign]
  | cons first rest ih =>
    rw [hasSchemeSign, Bool.or_eq_true, List.isPrefixOf_iff_prefix, ih, List.infix_cons_iff]

/-- The forms in which an endpoint names the path of a socket. -/
inductive Form where
  | long
  | short
  | bare
  deriving Repr, DecidableEq, Inhabited

namespace Form

/-- What stands in front of the path. -/
def scheme : Form → String
  | long => "unix://"
  | short => "unix:"
  | bare => ""

/-- Whether a form leaves a path as it is: the sign that ends a scheme must not occur in it, and
slashes must not make a longer scheme of the short one. -/
def Suits : Form → String → Prop
  | long, _ => True
  | short, path => ¬ "//".toList <+: path.toList ∧ ¬ "://".toList <:+: path.toList
  | bare, path => ¬ "://".toList <:+: path.toList

instance : (form : Form) → (path : String) → Decidable (form.Suits path)
  | long, _ => inferInstanceAs (Decidable True)
  | short, path =>
    inferInstanceAs (Decidable (¬ "//".toList <+: path.toList ∧ ¬ "://".toList <:+: path.toList))
  | bare, path => inferInstanceAs (Decidable (¬ "://".toList <:+: path.toList))

end Form

/-- A path from the root, with no blank at its end. -/
structure IsAbsolute (path : String) : Prop where
  root : path.toList.head? = some '/'
  ending : ∀ last ∈ path.toList.getLast?, Text.isBlank last = false

/-- A text with nothing but blanks in it. -/
def IsBlank (text : String) : Prop := ∀ character ∈ text.toList, Text.isBlank character

instance (text : String) : Decidable (IsBlank text) :=
  decidable_of_iff (text.toList.all Text.isBlank = true) List.all_eq_true

/-- An endpoint in a form, with texts in front and behind. -/
def written (front : String) (form : Form) (path back : String) : String :=
  front ++ form.scheme ++ path ++ back

section

variable {front back path endpoint : String} {characters : List Char}

/-- What an endpoint names is up to what is left of it without the blanks. -/
theorem socketPath_eq_ok (trimmed : Text.trim endpoint.toList = characters)
    (names : withoutScheme characters = path.toList) (some : path.toList ≠ [])
    (own : hasSchemeSign characters → longScheme <+: characters) :
    socketPath endpoint = .ok path := by
  have present : path.toList.isEmpty = false := by simpa using some
  have known : (hasSchemeSign characters && !longScheme.isPrefixOf characters) = false := by
    rw [Bool.and_eq_false_imp]
    intro found
    rw [List.isPrefixOf_iff_prefix.mpr (own found)]
    rfl
  simp only [socketPath, trimmed, names, present, known, String.ofList_toList]
  rfl

theorem IsAbsolute.ne_nil (absolute : IsAbsolute path) : path.toList ≠ [] := by
  intro nothing
  have root := absolute.root
  rw [nothing] at root
  cases root

/-- The blanks around a form are taken away. -/
theorem trim_written (form : Form) (absolute : IsAbsolute path) (before : IsBlank front)
    (behind : IsBlank back) :
    Text.trim (written front form path back).toList = form.scheme.toList ++ path.toList := by
  have parts : (written front form path back).toList
      = front.toList ++ (form.scheme.toList ++ path.toList) ++ back.toList := by
    simp only [written, String.toList_append, List.append_assoc]
  rw [parts]
  apply Text.trim_between before behind
  · exact List.append_ne_nil_of_right_ne_nil _ absolute.ne_nil
  · intro first found
    cases form with
    | long | short =>
      cases found
      decide
    | bare =>
      obtain rfl : '/' = first := Option.some.inj (absolute.root.symm.trans found)
      decide
  · rw [List.getLast?_append_of_ne_nil _ absolute.ne_nil]
    exact absolute.ending

theorem withoutScheme_long (path : List Char) : withoutScheme (longScheme ++ path) = path := by
  rw [withoutScheme, behind?_append]
  rfl

theorem longScheme_prefix_iff {path : List Char} :
    longScheme <+: shortScheme ++ path ↔ ['/', '/'] <+: path :=
  List.prefix_append_right_inj shortScheme

/-- The short scheme is taken away unless it is part of the long one. -/
theorem withoutScheme_short {path : List Char} (apart : ¬ ['/', '/'] <+: path) :
    withoutScheme (shortScheme ++ path) = path := by
  have other : longScheme.isPrefixOf (shortScheme ++ path) = false := by
    rwa [← Bool.not_eq_true, List.isPrefixOf_iff_prefix, longScheme_prefix_iff]
  rw [withoutScheme, behind?_append, behind?, other]
  rfl

/-- Behind the short scheme the sign that ends a scheme occurs where it occurs in the path, or where
the path makes it. -/
theorem hasSchemeSign_short {path : List Char} :
    hasSchemeSign (shortScheme ++ path) ↔ ['/', '/'] <+: path ∨ [':', '/', '/'] <:+: path := by
  simp [hasSchemeSign_iff, shortScheme, List.infix_cons_iff]

/-- **A form names its path** if it suits it, whatever blanks stand around. -/
theorem socketPath_of_form {form : Form} (absolute : IsAbsolute path) (suits : form.Suits path)
    (before : IsBlank front) (behind : IsBlank back) :
    socketPath (written front form path back) = .ok path := by
  have trimmed := trim_written form absolute before behind
  cases form with
  | long =>
    refine socketPath_eq_ok trimmed (withoutScheme_long _) absolute.ne_nil fun _ => ?_
    exact List.prefix_append longScheme path.toList
  | short =>
    obtain ⟨apart, unsigned⟩ := suits
    refine socketPath_eq_ok trimmed (withoutScheme_short apart) absolute.ne_nil fun found => ?_
    exact absurd (hasSchemeSign_short.mp found) (not_or.mpr ⟨apart, unsigned⟩)
  | bare =>
    obtain ⟨rest, root⟩ : ∃ rest, path.toList = '/' :: rest :=
      List.head?_eq_some_iff.mp absolute.root
    refine socketPath_eq_ok trimmed ?_ absolute.ne_nil fun found => ?_
    · rw [root]
      rfl
    · exact absurd (hasSchemeSign_iff.mp found) suits

/-- Behind the short scheme a path that begins with two slashes loses them: it stands behind the
long one. -/
theorem socketPath_of_slashes {rest : String} (absolute : IsAbsolute path)
    (slashes : path = "//" ++ rest) (some : rest ≠ "") (before : IsBlank front)
    (behind : IsBlank back) : socketPath (written front .short path back) = .ok rest := by
  have trimmed := trim_written .short absolute before behind
  have characters : Form.short.scheme.toList ++ path.toList = longScheme ++ rest.toList := by
    rw [slashes, String.toList_append]
    rfl
  rw [characters] at trimmed
  refine socketPath_eq_ok trimmed (withoutScheme_long _) ?_ fun _ => List.prefix_append _ _
  simpa using some

end

/-- The endpoints that name a path in a form that suits it, with blanks around. -/
inductive FormOf (path : String) : String → Prop
  | written (front : String) (form : Form) (back : String) (suits : form.Suits path)
    (before : IsBlank front) (behind : IsBlank back) : FormOf path (written front form path back)

theorem FormOf.socketPath_eq {path endpoint : String} (absolute : IsAbsolute path)
    (names : FormOf path endpoint) : socketPath endpoint = .ok path := by
  cases names with
  | written front form back suits before behind =>
    exact socketPath_of_form absolute suits before behind

end Endpoint

/-! ## Validation -/

/-- A configuration with another endpoint. -/
def Config.withEndpoint (config : Config) (endpoint : String) : Config :=
  { config with plugin := { config.plugin with endpoint } }

/-- An endpoint that names a socket leaves only the times to be validated. -/
theorem Config.fault?_withEndpoint (config : Config) {endpoint path : String}
    (named : Endpoint.socketPath endpoint = .ok path) :
    (config.withEndpoint endpoint).fault? = config.plugin.zeroTime?.map .zero := by
  have socket : (config.withEndpoint endpoint).plugin.socketPath = .ok path := named
  rw [fault?, socket]
  rfl

theorem Config.validate_eq_error_iff {config : Config} {fault : ConfigError} :
    config.validate = .error fault ↔ config.fault? = some fault := by
  unfold validate
  cases config.fault? <;> simp

namespace Endpoint

/-- **The forms of a path agree.**  Each form that suits a path from the root names exactly this path,
whatever blanks stand around it, and so validation finds the same fault with all of them, or none.
The long scheme suits every path.  The short one, together with two slashes at the beginning of a
path, is the long one: what is named is the path behind the slashes. -/
theorem forms_agree {path : String} (absolute : IsAbsolute path) :
    (∀ endpoint, FormOf path endpoint → socketPath endpoint = .ok path)
      ∧ (∀ (config : Config) endpoint other, FormOf path endpoint → FormOf path other →
        ∀ fault, (config.withEndpoint endpoint).validate = .error fault
          ↔ (config.withEndpoint other).validate = .error fault)
      ∧ (∀ front back, IsBlank front → IsBlank back → FormOf path (written front .long path back))
      ∧ ∀ rest, path = "//" ++ rest → rest ≠ "" → ∀ front back, IsBlank front → IsBlank back →
        socketPath (written front .short path back) = .ok rest := by
  refine ⟨fun endpoint names => names.socketPath_eq absolute, ?_, ?_, ?_⟩
  · intro config endpoint other names others fault
    rw [Config.validate_eq_error_iff, Config.validate_eq_error_iff,
      config.fault?_withEndpoint (names.socketPath_eq absolute),
      config.fault?_withEndpoint (others.socketPath_eq absolute)]
  · exact fun front back before behind => .written front .long back trivial before behind
  · exact fun rest slashes some front back => socketPath_of_slashes absolute slashes some

/-- A path in all three forms, with blanks around. -/
theorem forms_agree_plain :
    let path := "/run/d.sock"
    IsAbsolute path ∧ Form.short.Suits path ∧ Form.bare.Suits path
      ∧ socketPath "\t unix:///run/d.sock" = .ok path
      ∧ socketPath "unix:/run/d.sock\n" = .ok path
      ∧ socketPath "\u00a0/run/d.sock " = .ok path := by
  intro path
  have absolute : IsAbsolute "/run/d.sock" := ⟨rfl, fun last found => by cases found; rfl⟩
  have short : Form.short.Suits "/run/d.sock" := by decide
  have bare : Form.bare.Suits "/run/d.sock" := short.2
  obtain ⟨names, -, long, -⟩ := forms_agree absolute
  refine ⟨absolute, short, bare, ?_, ?_, ?_⟩
  · exact names _ (long "\t " "" (by decide) (by decide))
  · exact names _ (.written "" .short "\n" short (by decide) (by decide))
  · exact names _ (.written "\u00a0" .bare " " bare (by decide) (by decide))

/-- A path may begin with slashes that the short scheme takes for its own, and the sign of a scheme
in it keeps it from standing alone. -/
theorem path_lost_in_form :
    IsAbsolute "///d.sock" ∧ written "" .short "///d.sock" "" = written "" .long "/d.sock" ""
      ∧ socketPath (written "" .short "///d.sock" "") = .ok "/d.sock"
      ∧ IsAbsolute "/a://d.sock"
      ∧ socketPath (written "" .bare "/a://d.sock" "") = .error (.foreignScheme "/a://d.sock") := by
  refine ⟨⟨rfl, ?_⟩, rfl, rfl, ⟨rfl, ?_⟩, rfl⟩
  · intro last found
    cases found
    rfl
  · intro last found
    cases found
    rfl

end Endpoint

end JobHooks
