import GraphOffload.Proofs.Url.Segments
import GraphOffload.Url.Parse
import Mathlib.Data.List.TakeDrop
import Mathlib.Data.List.TakeWhile
import Mathlib.Tactic.SplitIfs

/-!
# URLs with a slash at their end

A slash after a URL of the web without query and fragment belongs to its path, which becomes that of a
directory: it ends with an empty segment, and what is joined to it goes into the directory.

## Main definitions

* `GraphOffload.Url.Extends` : a text at whose end a slash is one more character of the path.
* `GraphOffload.Url.directory` : the URL of a directory.
* `GraphOffload.Url.plain` : how a URL of the web without query and fragment is read after its scheme.

## Main results

* `GraphOffload.UrlPath.parse_slash` : a slash at the end of a path makes a directory of it.
* `GraphOffload.Url.parse_of_plain` : how a URL of the web is read that has neither query nor fragment.
* `GraphOffload.Url.exists_parse_of_slash` : a slash at the end of such a URL makes a directory of it.
-/

namespace GraphOffload

open List (span_eq_takeWhile_dropWhile)

/-! ### Segments -/

namespace Text

variable {separator : Char}

/-- A separator at the end begins an empty segment. -/
theorem split_concat (text : List Char) :
    split separator (text ++ [separator]) = split separator text ++ [[]] := by
  induction text with
  | nil => simp [split]
  | cons c rest ih =>
    obtain ⟨segment, more, split_eq⟩ := List.exists_cons_of_ne_nil (split_ne_nil separator rest)
    rw [List.cons_append, split, split, ih, split_eq]
    split_ifs
    all_goals rfl

/-- The last segment is empty only after a separator. -/
theorem getLast?_split {text : List Char} (some_text : text ≠ [])
    (unended : text.getLast? ≠ some separator) : (split separator text).getLast? ≠ some [] := by
  induction text with
  | nil => exact absurd rfl some_text
  | cons c rest ih =>
    cases rest with
    | nil =>
      have other : c ≠ separator := fun same => unended (congrArg some same)
      simp [split, other]
    | cons d rest =>
      rw [List.getLast?_cons_cons] at unended
      have later := ih (List.cons_ne_nil _ _) unended
      obtain ⟨segment, more, split_eq⟩ := List.exists_cons_of_ne_nil (split_ne_nil separator (d :: rest))
      rw [split_eq] at later
      rw [split, split_eq]
      split_ifs
      · rwa [List.getLast?_cons_cons]
      · cases more with
        | nil => simp
        | cons next more => simpa using later

end Text

/-- Nothing is left out when a text is written with percent signs. -/
theorem Percent.encode_eq_nil {reserved : Char → Bool} {text : List Char}
    (nothing : encode reserved text = []) : text = [] := by
  cases text with
  | nil => rfl
  | cons c rest =>
    obtain ⟨first, _⟩ := List.append_eq_nil_iff.mp nothing
    rw [encodeChar] at first
    split at first
    · cases first
    · have bytes_eq : Utf8.bytes c.toString = String.utf8EncodeChar c :=
        (Utf8.bytes_ofList [c]).trans (List.append_nil _)
      obtain ⟨byte, more, cons_eq⟩ := List.exists_cons_of_ne_nil (String.utf8EncodeChar_ne_nil (c := c))
      rw [bytes_eq, cons_eq] at first
      cases first

/-! ### Paths -/

namespace UrlPath

/-- A path that is followed to the end of a directory ends with an empty segment. -/
theorem exists_walk_directory (place segments : UrlPath) :
    ∃ names, walk place (segments ++ [[]]) = names ++ [[]] := by
  induction segments generalizing place with
  | nil => exact ⟨place, rfl⟩
  | cons segment rest ih =>
    obtain ⟨next, more, rest_eq⟩ := List.exists_cons_of_ne_nil (List.append_ne_nil_of_right_ne_nil rest
      (List.cons_ne_nil ([] : List Char) []))
    rw [List.cons_append, rest_eq, walk, ← rest_eq]
    split_ifs
    all_goals exact ih _

/-- An empty segment at the end makes a directory of what is there.

**Proof sketch.** Induction on the segments. The last one may mean a place; then the path is a directory
already, and the empty segment adds nothing. -/
theorem walk_directory (place : UrlPath) {segments : UrlPath} (some_segment : segments ≠ [])
    (named : segments.getLast? ≠ some []) :
    walk place (segments ++ [[]]) = dropEmptyLast (walk place segments) ++ [[]] := by
  have ended (names : UrlPath) : dropEmptyLast (names ++ [[]]) = names := by
    rw [dropEmptyLast, if_pos List.getLast?_concat, List.dropLast_concat]
  have last_empty (names : UrlPath) : walk names [[]] = names ++ [[]] := rfl
  induction segments generalizing place with
  | nil => exact absurd rfl some_segment
  | cons segment rest ih =>
    cases rest with
    | nil =>
      have kept : dropEmptyLast (place ++ [segment]) = place ++ [segment] := by
        refine if_neg fun empty => named ?_
        rwa [List.getLast?_concat] at empty
      rw [List.singleton_append, walk, walk]
      split_ifs
      · rw [ended, last_empty]
      · rw [ended, last_empty]
      · rw [kept, last_empty]
    | cons next more =>
      have named' : (next :: more).getLast? ≠ some [] := by
        rwa [List.getLast?_cons_cons] at named
      rw [List.cons_append, List.cons_append, walk, walk]
      split_ifs
      all_goals exact ih _ (List.cons_ne_nil _ _) named'

/-- A slash at the beginning of a path adds nothing. -/
theorem parse_cons (c : Char) (rest : List Char) :
    parse (c :: rest) = walk [] ((Text.split '/' (if c = '/' then rest else c :: rest)).map
      (Percent.encode Percent.inPath)) := by
  split
  · rename_i slash
    rw [slash, parse]
  · rename_i other
    rw [parse]
    exact fun _ same => other (List.cons.inj same).1

/-- A path with a slash at its end is that of a directory. -/
theorem exists_parse_directory (text : List Char) : ∃ names, parse (text ++ ['/']) = names ++ [[]] := by
  cases text with
  | nil => exact ⟨[], by decide⟩
  | cons c rest =>
    have unslashed : (if c = '/' then rest ++ ['/'] else c :: (rest ++ ['/'])) =
        (if c = '/' then rest else c :: rest) ++ ['/'] := by
      split_ifs
      all_goals rfl
    rw [List.cons_append, parse_cons, unslashed, Text.split_concat, List.map_append]
    exact exists_walk_directory _ _

/-- **A slash at the end of a path makes a directory of it.**

**Proof sketch.** Without the slash that a path may begin with, the text is split into segments. One
more slash adds an empty segment (`Text.split_concat`), with which the walk comes to a directory
(`walk_directory`). -/
theorem parse_slash {text : List Char} (unended : text.getLast? ≠ some '/') :
    parse (text ++ ['/']) = dropEmptyLast (parse text) ++ [[]] := by
  -- with and without a slash in front the same is left to be walked
  have walked {rest : List Char} (some_rest : rest ≠ []) (unended : rest.getLast? ≠ some '/') :
      walk [] ((Text.split '/' (rest ++ ['/'])).map (Percent.encode Percent.inPath)) =
        dropEmptyLast (walk [] ((Text.split '/' rest).map (Percent.encode Percent.inPath))) ++ [[]] := by
    have last := Text.getLast?_split some_rest unended
    rw [Text.split_concat, List.map_append]
    refine walk_directory [] ?_ ?_
    · rw [Ne, List.map_eq_nil_iff]
      exact Text.split_ne_nil _ _
    · rw [List.getLast?_map]
      intro empty
      obtain ⟨segment, segment_eq, nothing⟩ := Option.map_eq_some_iff.mp empty
      rw [Percent.encode_eq_nil nothing] at segment_eq
      exact last segment_eq
  cases text with
  | nil => decide
  | cons c rest =>
    rw [List.cons_append, parse_cons, parse_cons]
    split
    · rename_i slash
      cases rest with
      | nil => exact absurd (congrArg some slash) unended
      | cons d rest =>
        rw [List.getLast?_cons_cons] at unended
        exact walked (List.cons_ne_nil _ _) unended
    · exact walked (List.cons_ne_nil _ _) unended

end UrlPath

namespace Url

variable {scheme : String} {text body : List Char}

/-! ### Servers -/

/-- What follows a host is nothing, or begins with a colon. -/
theorem cutHost_rest (inBrackets : Bool) (text : List Char) :
    (cutHost inBrackets text).2 <:+ text ∧
      ((cutHost inBrackets text).2 = [] ∨ (cutHost inBrackets text).2.head? = some ':') := by
  induction text generalizing inBrackets with
  | nil => exact ⟨List.suffix_refl _, .inl rfl⟩
  | cons c rest ih =>
    rw [cutHost]
    split
    · rename_i colon
      exact ⟨List.suffix_refl _, .inr (congrArg some colon.1)⟩
    · obtain ⟨later, starts⟩ := ih ((inBrackets || c = '[') && c ≠ ']')
      exact ⟨later.trans (List.suffix_cons _ _), starts⟩

/-- Nothing is left behind a port, where there are no backslashes. -/
theorem readPort_rest {usual : Option Nat} {text : List Char} {read : Option Nat × List Char}
    (no_backslash : '\\' ∉ text) (starts : text = [] ∨ text.head? = some ':')
    (read_eq : readPort usual text = .ok read) : read.2 = [] := by
  rcases starts with rfl | starts
  · cases read_eq
    rfl
  · obtain ⟨digits, rfl⟩ := List.head?_eq_some_iff.mp starts
    simp only [readPort, span_eq_takeWhile_dropWhile] at read_eq
    split at read_eq
    · cases read_eq
    · rename_i right
      obtain rfl := Except.ok.inj read_eq
      by_contra some_left
      refine right (.inr ⟨some_left, fun backslash => no_backslash ?_⟩)
      have later := (List.dropWhile_suffix Char.isDigit).mem (List.mem_of_mem_head? backslash)
      exact List.mem_cons_of_mem _ later

/-- A server stands at the end of its text, behind the user. -/
theorem cutUser_suffix (text : List Char) : (cutUser text).2 <:+ text := by
  have front : text.reverse.takeWhile (· ≠ '@') <+: text.reverse := List.takeWhile_prefix _
  simpa only [cutUser, span_eq_takeWhile_dropWhile, List.reverse_reverse] using
    List.reverse_suffix.mpr front

/-- **Nothing of an authority is left for the path**, where there are no backslashes. -/
theorem readAuthority_rest {server : List Char} {isLast : Bool} {read : Authority × List Char}
    (no_backslash : '\\' ∉ server) (read_eq : readAuthority scheme server isLast = .ok read) :
    read.2 = [] := by
  obtain ⟨within, starts⟩ := cutHost_rest false (cutUser server).2
  have port {found : Option Nat × List Char}
      (found_eq : readPort (usualPort? scheme) (cutHost false (cutUser server).2).2 = .ok found) :
      found.2 = [] :=
    readPort_rest (fun mem => no_backslash ((within.trans (cutUser_suffix server)).mem mem)) starts
      found_eq
  simp only [readAuthority, bind, Except.bind, pure, Except.pure, throw, throwThe,
    MonadExceptOf.throw] at read_eq
  grind

/-- Whether anything follows a server of the web does not matter to its reading. -/
theorem readAuthority_eq (web : isWeb scheme = true) (server : List Char) (isLast : Bool) :
    readAuthority scheme server isLast = readAuthority scheme server true := by
  have no_host : (cutUser server).2 = [] → (cutHost false (cutUser server).2).1.isEmpty = true := by
    intro nothing
    rw [nothing]
    rfl
  simp only [readAuthority, bind, Except.bind, pure, Except.pure, throw, throwThe, MonadExceptOf.throw]
  grind

/-! ### Plain URLs -/

/-- The URL of a server of the web and a path, without query and fragment. -/
def plain (scheme : String) (body : List Char) : Except Fault Url :=
  (readAuthority scheme (body.takeWhile (· ≠ '/')) true).map fun read =>
    { scheme := scheme
      authority := some read.1
      place := .path (UrlPath.parse (body.dropWhile (· ≠ '/'))) }

/-- A text is cut in the same way by what its characters do not tell apart. -/
theorem span_congr {p q : Char → Bool} (same : ∀ c ∈ text, p c = q c) : text.span p = text.span q := by
  rw [span_eq_takeWhile_dropWhile, span_eq_takeWhile_dropWhile]
  induction text with
  | nil => rfl
  | cons c rest ih =>
    obtain ⟨first, later⟩ := List.forall_mem_cons.mp same
    obtain ⟨front, back⟩ := Prod.mk.inj (ih later)
    rw [List.takeWhile_cons, List.takeWhile_cons, List.dropWhile_cons, List.dropWhile_cons, first]
    split_ifs
    · rw [front, back]
    · rfl

/-- A text that is all of one kind is not cut. -/
theorem span_eq_self {p : Char → Bool} (all : ∀ c ∈ text, p c = true) : text.span p = (text, []) := by
  rw [span_eq_takeWhile_dropWhile, List.takeWhile_eq_self_iff.mpr all, List.dropWhile_eq_nil_iff.mpr all]

/-- A server of the web with a path, where neither query nor fragment follow. -/
theorem readServer_of_plain (web : isWeb scheme = true) (unended : ∀ c ∈ body, endsPath c = false)
    (no_backslash : '\\' ∉ body) : readServer scheme body = plain scheme body := by
  have cut : body.span (fun c => c ≠ '/' && !endsPath c) =
      (body.takeWhile (· ≠ '/'), body.dropWhile (· ≠ '/')) := by
    rw [← span_eq_takeWhile_dropWhile]
    exact span_congr fun c mem => by rw [unended c mem, Bool.not_false, Bool.and_true]
  have front := (List.takeWhile_prefix (l := body) fun c => decide (c ≠ '/')).subset
  have back := (List.dropWhile_suffix (l := body) fun c => decide (c ≠ '/')).subset
  rw [readServer, plain]
  simp only [cut]
  rw [readAuthority_eq web]
  cases read_eq : readAuthority scheme (body.takeWhile (· ≠ '/')) true with
  | error fault => rfl
  | ok read =>
    obtain ⟨authority, more⟩ := read
    obtain rfl : more = [] := readAuthority_rest (fun mem => no_backslash (front mem)) read_eq
    have whole : (body.dropWhile (· ≠ '/')).span (fun c => !endsPath c) = (body.dropWhile (· ≠ '/'), []) :=
      span_eq_self fun c mem => by rw [unended c (back mem), Bool.not_false]
    simp only [bind, Except.bind, pure, Except.pure, Except.map, List.nil_append, whole, web, not_true,
      and_false, if_false, ofParts, readEnd]

/-! ### Texts -/

/-- A character that stops a reading does not make it longer. -/
theorem takeWhile_concat {p : Char → Bool} {c : Char} (stops : p c = false) (text : List Char) :
    (text ++ [c]).takeWhile p = text.takeWhile p := by
  rw [List.takeWhile_append, List.takeWhile_cons_of_neg (by rw [stops]; exact Bool.false_ne_true)]
  split
  · rename_i all
    rw [List.append_nil, (List.takeWhile_prefix p).eq_of_length all]
  · rfl

/-- It stands at the end of what is left. -/
theorem dropWhile_concat {p : Char → Bool} {c : Char} (stops : p c = false) (text : List Char) :
    (text ++ [c]).dropWhile p = text.dropWhile p ++ [c] := by
  rw [List.dropWhile_append, List.dropWhile_cons_of_neg (by rw [stops]; exact Bool.false_ne_true)]
  split
  · rename_i nothing
    rw [List.isEmpty_iff.mp nothing, List.nil_append]
  · rfl

/-- A text ends as what stands at its end. -/
theorem getLast?_of_suffix {back : List Char} {c : Char} (suffix : back <:+ text)
    (last : back.getLast? = some c) : text.getLast? = some c := by
  obtain ⟨front, rfl⟩ := suffix
  rw [List.getLast?_append, last, Option.some_or]

/-- A character as it counts in a URL of the web. -/
def turned (c : Char) : Char := if c = '\\' then '/' else c

/-- What is behind a scheme stands at the end of its text. -/
theorem readScheme_rest {rest : List Char} (read : readScheme body = some (scheme, rest)) :
    rest <:+ body := by
  rw [readScheme, span_eq_takeWhile_dropWhile] at read
  split at read
  · rename_i cut
    split_ifs at read
    obtain ⟨_, rfl⟩ := Prod.mk.inj (Option.some.inj read)
    obtain ⟨_, back⟩ := Prod.mk.inj cut
    have suffix := List.dropWhile_suffix (l := body) isSchemeChar
    rw [back] at suffix
    exact (List.suffix_cons _ _).trans suffix
  · cases read

/-- A slash at the end of a text is behind its scheme. -/
theorem readScheme_slash (text : List Char) :
    readScheme (text ++ ['/']) = (readScheme text).map fun read => (read.1, read.2 ++ ['/']) := by
  rw [readScheme, readScheme, span_eq_takeWhile_dropWhile, span_eq_takeWhile_dropWhile,
    takeWhile_concat rfl, dropWhile_concat rfl]
  cases text with
  | nil => rfl
  | cons c text =>
    rw [List.cons_append, List.head?_cons, List.head?_cons]
    cases (c :: text).dropWhile isSchemeChar with
    | nil => rfl
    | cons d rest =>
      by_cases colon : d = ':'
      · subst colon
        by_cases letter : c.isAlpha
        all_goals simp [letter]
      · simp [colon]

/-- A character that shows counts. -/
theorem isIgnored_of_shows {c : Char} (shows : ' ' < c) : UrlPath.isIgnored c = false := by
  have no_blank {d : Char} (blank : d ≤ ' ') : ¬ c = d := by
    rintro rfl
    exact Char.not_le.mpr shows blank
  simp [UrlPath.isIgnored, no_blank (d := '\t') (by decide), no_blank (d := '\n') (by decide),
    no_blank (d := '\x0d') (by decide)]

/-- What counts of a text that ends with a character that shows. -/
theorem clean_concat (front : List Char) {c : Char} (shows : ' ' < c) :
    clean (String.ofList (front ++ [c])) =
      (front.dropWhile (· ≤ ' ')).filter (!UrlPath.isIgnored ·) ++ [c] := by
  have stops : decide (c ≤ ' ') = false := decide_eq_false (Char.not_le.mpr shows)
  rw [clean, String.toList_ofList, dropWhile_concat stops, List.reverse_append, List.reverse_singleton,
    List.singleton_append, List.dropWhile_cons_of_neg (by rw [stops]; exact Bool.false_ne_true),
    List.reverse_cons, List.reverse_reverse, List.filter_append]
  simp [isIgnored_of_shows shows]

/-- What counts of a text is in it. -/
theorem mem_of_mem_clean {text : String} {c : Char} (mem : c ∈ clean text) : c ∈ text.toList := by
  obtain ⟨inside, _⟩ := List.mem_filter.mp mem
  have from_start := (List.dropWhile_suffix _).mem (List.mem_reverse.mp inside)
  exact (List.dropWhile_suffix _).mem (List.mem_reverse.mp from_start)

/-- **A URL of the web is a server and a path**, if there is neither query nor fragment.

**Proof sketch.** Neither the path nor what stands before it has a character that ends a path, so that
all slashes are turned, and all that follows the server is the path. -/
theorem parse_of_plain {text : String} {rest : List Char}
    (read : readScheme (clean text) = some (scheme, rest)) (web : isWeb scheme = true)
    (unended : ∀ c ∈ text.toList, endsPath c = false) :
    parse text = plain scheme ((rest.map turned).dropWhile (· = '/')) := by
  have rest_unended : ∀ c ∈ rest, endsPath c = false := by
    exact fun c mem => unended c (mem_of_mem_clean ((readScheme_rest read).mem mem))
  have turns : turnSlashes rest = rest.map turned := by
    rw [turnSlashes, span_eq_self fun c mem => by rw [rest_unended c mem, Bool.not_false]]
    exact List.append_nil _
  have body_of {c : Char} (mem : c ∈ (rest.map turned).dropWhile (· = '/')) :
      ∃ d ∈ rest, turned d = c :=
    List.mem_map.mp ((List.dropWhile_suffix _).mem mem)
  rw [parse, read]
  dsimp only
  rw [if_pos web, turns]
  refine readServer_of_plain web (fun c mem => ?_) fun mem => ?_
  · obtain ⟨d, known, rfl⟩ := body_of mem
    rw [turned]
    split_ifs
    · rfl
    · exact rest_unended d known
  · obtain ⟨d, _, backslash⟩ := body_of mem
    rw [turned] at backslash
    split at backslash
    · cases backslash
    · rename_i other
      exact other backslash

/-- The URL of a directory. -/
def directory (url : Url) : Url :=
  match url.place with
  | .rootless _ => url
  | .path held => { url with place := .path (UrlPath.dropEmptyLast held ++ [[]]) }

/-- A directory is of the same scheme. -/
@[simp] theorem scheme_directory (url : Url) : url.directory.scheme = url.scheme := by
  rw [directory]
  split
  all_goals rfl

/-- The path of a directory ends with an empty segment. -/
theorem place_directory {url : Url} {held : UrlPath} (here : url.place = .path held) :
    url.directory.place = .path (UrlPath.dropEmptyLast held ++ [[]]) := by
  rw [directory, here]

/-- A slash at the end of a path makes a directory of it. -/
theorem plain_slash (unended : body.getLast? ≠ some '/') :
    plain scheme (body ++ ['/']) = (plain scheme body).map directory := by
  have path_unended : (body.dropWhile (· ≠ '/')).getLast? ≠ some '/' := fun last =>
    unended (getLast?_of_suffix (List.dropWhile_suffix _) last)
  rw [plain, plain, takeWhile_concat rfl, dropWhile_concat rfl, UrlPath.parse_slash path_unended]
  cases readAuthority scheme (body.takeWhile (· ≠ '/')) true with
  | error fault => rfl
  | ok read => rfl

/-- There is no URL of the web without a server. -/
theorem plain_nil (web : isWeb scheme = true) : plain scheme [] = .error .emptyHost := by
  simp [plain, readAuthority, cutUser, cutHost, web, bind, Except.bind, throw, throwThe,
    MonadExceptOf.throw, Except.map]

/-- What is read in two steps is read in both. -/
theorem exists_of_bind_eq_ok {α β : Type} {first : Except Fault α} {next : α → Except Fault β} {value : β}
    (read : first >>= next = .ok value) : ∃ found, first = .ok found ∧ next found = .ok value := by
  cases first with
  | error fault => cases read
  | ok found => exact ⟨found, rfl, read⟩

/-- A server is read to a URL of its scheme. -/
theorem scheme_of_readServer {url : Url} (read : readServer scheme body = .ok url) :
    url.scheme = scheme := by
  obtain ⟨found, _, rest_eq⟩ := exists_of_bind_eq_ok read
  obtain rfl := Except.ok.inj rest_eq
  rfl

/-- So is a file. -/
theorem scheme_of_readFile {url : Url} (read : readFile text = .ok url) : url.scheme = "file" := by
  unfold readFile at read
  dsimp only at read
  split_ifs at read
  all_goals
    obtain ⟨host, _, rest_eq⟩ := exists_of_bind_eq_ok read
    obtain rfl := Except.ok.inj rest_eq
    rfl

/-- **A text is read to a URL of its scheme.** -/
theorem readScheme_of_parse {text : String} {url : Url} (parsed : parse text = .ok url) :
    ∃ rest, readScheme (clean text) = some (url.scheme, rest) := by
  rw [parse] at parsed
  split at parsed
  · cases parsed
  rename_i scheme rest read
  refine ⟨rest, read.trans ?_⟩
  suffices same : url.scheme = scheme by rw [same]
  split_ifs at parsed with web file
  · exact scheme_of_readServer parsed
  · rw [file]
    exact scheme_of_readFile parsed
  · unfold readOther at parsed
    split at parsed
    · exact scheme_of_readServer parsed
    · obtain rfl := Except.ok.inj parsed
      rfl

/-! ### Directories -/

/-- The slash after a text is one more character of its path. -/
structure Extends (text : String) : Prop where
  /-- There is neither query nor fragment. -/
  unended : ∀ c ∈ text.toList, endsPath c = false
  /-- The last character counts, and is no slash. -/
  shows : ∃ front c, text.toList = front ++ [c] ∧ ' ' < c ∧ turned c ≠ '/'

/-- What counts of a text with a slash at its end. -/
theorem clean_slash (text : String) :
    clean (text ++ "/") = (text.toList.dropWhile (· ≤ ' ')).filter (!UrlPath.isIgnored ·) ++ ['/'] := by
  have text_eq : text ++ "/" = String.ofList (text.toList ++ ['/']) := by
    rw [← String.toList_inj]
    simp
  rw [text_eq, clean_concat _ (by decide)]

/-- What counts of a text whose last character shows. -/
theorem clean_eq {text : String} {front : List Char} {c : Char} (text_eq : text.toList = front ++ [c])
    (shows : ' ' < c) :
    clean text = (text.toList.dropWhile (· ≤ ' ')).filter (!UrlPath.isIgnored ·) ∧
      (clean text).getLast? = some c := by
  have stops : decide (c ≤ ' ') = false := decide_eq_false (Char.not_le.mpr shows)
  have cleaned : clean text = (front.dropWhile (· ≤ ' ')).filter (!UrlPath.isIgnored ·) ++ [c] := by
    rw [← clean_concat front shows, ← text_eq, String.ofList_toList]
  constructor
  · rw [cleaned, text_eq, dropWhile_concat stops, List.filter_append]
    simp [isIgnored_of_shows shows]
  · rw [cleaned, List.getLast?_concat]

/-- A URL of the web with a slash at its end is a server and a path with a slash at its end, if there is
neither query nor fragment. -/
theorem plain_of_parse_slash {text : String} {url : Url}
    (unended : ∀ c ∈ text.toList, endsPath c = false) (parsed : parse (text ++ "/") = .ok url)
    (web : isWeb url.scheme = true) :
    ∃ rest, readScheme ((text.toList.dropWhile (· ≤ ' ')).filter (!UrlPath.isIgnored ·)) =
        some (url.scheme, rest) ∧
      plain url.scheme ((rest.map turned).dropWhile (· = '/') ++ ['/']) = .ok url := by
  obtain ⟨slashed, read'⟩ := readScheme_of_parse parsed
  have unended' : ∀ c ∈ (text ++ "/").toList, endsPath c = false := by
    rw [String.toList_append]
    exact List.forall_mem_append.mpr ⟨unended, List.forall_mem_singleton.mpr rfl⟩
  rw [parse_of_plain read' web unended'] at parsed
  rw [clean_slash, readScheme_slash] at read'
  obtain ⟨⟨scheme, rest⟩, read, same⟩ := Option.map_eq_some_iff.mp read'
  obtain ⟨rfl, rfl⟩ := Prod.mk.inj same
  have turned_rest : (rest ++ ['/']).map turned = rest.map turned ++ ['/'] := by
    rw [List.map_append]
    rfl
  rw [turned_rest, List.dropWhile_append] at parsed
  refine ⟨rest, read, ?_⟩
  split at parsed
  · rw [List.dropWhile_cons_of_pos rfl, List.dropWhile_nil, plain_nil web] at parsed
    cases parsed
  · exact parsed

/-- **A slash at the end of a text makes a directory of what it names.** -/
theorem exists_parse_of_slash {text : String} {url : Url} (goes_on : Extends text)
    (parsed : parse (text ++ "/") = .ok url) (web : isWeb url.scheme = true) :
    ∃ own, parse text = .ok own ∧ own.directory = url := by
  obtain ⟨unended, front, c, text_eq, shows, no_slash⟩ := goes_on
  obtain ⟨clean_eq, last⟩ := clean_eq text_eq shows
  obtain ⟨rest, read, directory_eq⟩ := plain_of_parse_slash unended parsed web
  rw [← clean_eq] at read
  have body_unended : ((rest.map turned).dropWhile (· = '/')).getLast? ≠ some '/' := by
    intro slash
    have slash' := getLast?_of_suffix (List.dropWhile_suffix _) slash
    rw [List.getLast?_map] at slash'
    obtain ⟨d, last_of_rest, turned_eq⟩ := Option.map_eq_some_iff.mp slash'
    have ends := getLast?_of_suffix (readScheme_rest read) last_of_rest
    rw [last] at ends
    obtain rfl := Option.some.inj ends
    exact no_slash turned_eq
  rw [plain_slash body_unended] at directory_eq
  rw [parse_of_plain read web unended]
  generalize plain _ _ = own at directory_eq
  cases own with
  | error fault => cases directory_eq
  | ok own => exact ⟨own, rfl, Except.ok.inj directory_eq⟩

/-- A server is read to a URL with a path. -/
theorem path_of_readServer {url : Url} (read : readServer scheme body = .ok url) :
    ∃ held, url.place = .path held := by
  obtain ⟨found, _, rest_eq⟩ := exists_of_bind_eq_ok read
  obtain rfl := Except.ok.inj rest_eq
  exact ⟨_, rfl⟩

/-- A URL of the web has a path. -/
theorem path_of_parse {text : String} {url : Url} (parsed : parse text = .ok url)
    (web : isWeb url.scheme = true) : ∃ held, url.place = .path held := by
  obtain ⟨rest, read⟩ := readScheme_of_parse parsed
  rw [parse, read] at parsed
  dsimp only at parsed
  rw [if_pos web] at parsed
  exact path_of_readServer parsed

/-- **A URL of the web with a slash at its end is that of a directory**, if there is neither query nor
fragment. -/
theorem directory_of_parse_slash {text : String} {url : Url}
    (unended : ∀ c ∈ text.toList, endsPath c = false) (parsed : parse (text ++ "/") = .ok url)
    (web : isWeb url.scheme = true) : ∃ names, url.place = .path (names ++ [[]]) := by
  obtain ⟨rest, _, plain_eq⟩ := plain_of_parse_slash unended parsed web
  obtain ⟨names, names_eq⟩ :=
    UrlPath.exists_parse_directory (((rest.map turned).dropWhile (· = '/')).dropWhile (· ≠ '/'))
  rw [plain, dropWhile_concat rfl, names_eq] at plain_eq
  generalize readAuthority _ _ _ = server at plain_eq
  cases server with
  | error fault => cases plain_eq
  | ok read => exact ⟨names, congrArg place (Except.ok.inj plain_eq).symm⟩

end Url

end GraphOffload
