import Crond.Machine.Calendar.Pattern
import Crond.Machine.Files.Rights
import Crond.Machine.Script.Utility.Measure
import Crond.Machine.Script.Utility.Order
import Crond.Machine.Script.Utility.Places

/-
  The program `ls`: files and what is in directories, in an order, by names alone or with what is
  known of each.
-/

namespace Crond.Script

open Text Files Calendar

namespace Utility

/-! ### What is asked for -/

/-- How names are put on lines. -/
inductive Arrangement where
  | single
  | long
  /-- In columns, from top to bottom. -/
  | columns
  /-- In columns, from left to right. -/
  | rows
  | commas
  deriving DecidableEq, Repr

inductive ListingKey where
  | name
  | unsorted
  | time
  | size
  | ending
  | version
  | width
  deriving DecidableEq, Repr

/-- Which names that begin with a dot are listed. -/
inductive DotNames where
  | none
  | almostAll
  | all
  deriving DecidableEq, Repr

/-- What is told of the kind of a file behind its name. -/
inductive Marks where
  | none
  | slashes
  | kinds
  | all
  deriving DecidableEq, Repr

/-- How names are written. -/
inductive Quoting where
  | literal
  | shell
  | shellAlways
  | shellEscape
  | shellEscapeAlways
  | doubled
  | doubledIfNeeded
  | escape
  | quoted
  deriving DecidableEq, Repr

structure Listing where
  arrangement : Arrangement := .single
  dots : DotNames := .none
  ignored : List (List Char) := []
  concealed : List (List Char) := []
  dropsBackups : Bool := false
  isDeep : Bool := false
  namesDirectories : Bool := false
  key : ListingKey := .name
  isReversed : Bool := false
  directoriesFirst : Bool := false
  marks : Marks := .none
  followsAll : Bool := false
  followsNamed : Bool := false
  quoting : Quoting := .literal
  hidesControls : Bool := false
  showsNumbers : Bool := false
  showsBlocks : Bool := false
  showsOwner : Bool := true
  showsGroup : Bool := true
  showsAuthor : Bool := false
  areNumeric : Bool := false
  sizes : Scale := .fixed 1 ""
  blocks : Scale := .fixed 1024 ""
  /-- The patterns of moments that are long ago, and of others. -/
  old : List Char := bytes "%b %e  %Y"
  recent : List Char := bytes "%b %e %H:%M"
  width : Nat := 80
  tab : Nat := 8
  mark : Char := '\n'

/-- Something that is listed. -/
structure Listed where
  name : Name
  place : Place
  item : Item

/-! ### Names -/

/-- A name between double quotes, or with backslashes alone. -/
def escapedName (isQuoted : Bool) (name : Name) : List Char :=
  name.flatMap fun c =>
    if c = '\\' then ['\\', '\\']
    else if isQuoted && c = '"' then ['\\', '"']
    else if !isQuoted && c = ' ' then ['\\', ' ']
    else if isPrintable c then [c]
    else escapedByte c

/-- Whether a shell would not read a name back as it is. -/
def isRisky (name : Name) : Bool := shownName name ≠ name

/-- A name between single quotes, where nothing is done about what cannot be seen. -/
def plainQuoted (name : Name) : List Char :=
  if name.contains '\'' && !name.any fun c => c = '"' || c = '$' || c = '\\' || c = backquote then
    '"' :: name ++ ['"']
  else
    '\'' :: (name.flatMap fun c => if c = '\'' then ['\'', '\\', '\'', '\''] else [c]) ++ ['\'']

def Listing.shown (l : Listing) (name : Name) : List Char :=
  let text := match l.quoting with
    | .literal => name
    | .shell => if isRisky name then plainQuoted name else name
    | .shellAlways => plainQuoted name
    | .shellEscape => shownName name
    | .shellEscapeAlways => inQuotes name
    | .doubled => '"' :: escapedName true name ++ ['"']
    | .doubledIfNeeded =>
      if escapedName true name = name then name else '"' :: escapedName true name ++ ['"']
    | .escape => escapedName false name
    | .quoted => '\'' :: (escapedName false name).flatMap (fun c =>
        if c = '\'' then ['\\', '\''] else [c]) ++ ['\'']
  if l.hidesControls then text.map fun c => if isPrintable c then c else '?' else text

/-- Whether names stand one below the other, so that those without quotes are moved. -/
def Listing.aligns (l : Listing) : Bool :=
  let quotes := match l.quoting with
    | .shell | .shellEscape | .doubledIfNeeded => true
    | _ => false
  quotes && match l.arrangement with
    | .long => true
    | .columns | .rows => l.width ≠ 0
    | _ => false

/-- A name as it stands among others, some of which may be in quotes. -/
def Listing.placed (l : Listing) (someQuoted : Bool) (name : Name) : List Char :=
  let text := l.shown name
  if someQuoted && text = name then ' ' :: text else text

def Listing.markOf (l : Listing) (item : Item) : List Char :=
  match l.marks, item.node with
  | .none, _ => []
  | _, .directory => ['/']
  | .slashes, _ => []
  | _, .link _ => ['@']
  | _, .pipe _ => ['|']
  | .all, .file _ | .all, .program => if item.isExecutable then ['*'] else []
  | _, _ => []

/-! ### Order -/

def sizeOf (item : Item) : Nat :=
  match item.node with
  | .file cs => cs.length
  | .directory => 4096
  | .link target => target.length
  | .program => 100000
  | .device _ | .pipe _ => 0

/-- The room that something takes up, in bytes. -/
def roomOf (item : Item) : Nat :=
  match item.node with
  | .link _ => 0
  | _ => 4096 * begun (sizeOf item) 4096

/-- What stands behind the last dot of a name, with the dot. -/
def endingOf (name : Name) : List Char :=
  let behind := (name.reverse.takeWhile (· ≠ '.')).reverse
  if behind.length < name.length then '.' :: behind else []

def Listing.order (l : Listing) (a b : Listed) : Ordering :=
  let byName := compareText a.name b.name
  let directory (x : Listed) : Nat := if x.item.node = .directory then 0 else 1
  let byKey := match l.key with
    | .name | .unsorted => byName
    | .time => (compare b.item.modified a.item.modified).then byName
    | .size => (compare (sizeOf b.item) (sizeOf a.item)).then byName
    | .ending => (compareText (endingOf a.name) (endingOf b.name)).then byName
    | .version => compareNames a.name b.name
    | .width => (compare (l.shown a.name).length (l.shown b.name).length).then byName
  let byKey := if l.isReversed then byKey.swap else byKey
  if l.directoriesFirst then (compare (directory a) (directory b)).then byKey else byKey

def Listing.sorted (l : Listing) (all : List Listed) : List Listed :=
  if l.key = .unsorted then all else all.mergeSort fun a b => l.order a b ≠ .gt

/-! ### Columns -/

/-- Blanks, and tabs where they reach far enough, from one position to another. The number bounds
  them. -/
def indent (tab : Nat) (goal : Nat) : Nat → Nat → List Char
  | 0, _ => []
  | n + 1, position =>
    if goal ≤ position then []
    else if tab ≠ 0 && (position + 1) / tab < goal / tab then
      '\t' :: indent tab goal n (position + tab - position % tab)
    else ' ' :: indent tab goal n (position + 1)

/-- The widths of so many columns. -/
def columnWidths (isDown : Bool) (count : Nat) (widths : List Nat) : List Nat :=
  let rows := begun widths.length count
  (List.range count).map fun c =>
    let inColumn := widths.zipIdx.filterMap fun (w, n) =>
      if (if isDown then n / rows else n % count) = c then some w else none
    max 3 ((inColumn.foldl max 0) + if c + 1 = count then 0 else 2)

/-- The most columns for which a line is wide enough, and their widths. The number bounds them. -/
def fittingColumns (isDown : Bool) (line : Nat) (widths : List Nat) : Nat → List Nat
  | 0 => [0]
  | 1 => columnWidths isDown 1 widths
  | n + 1 =>
    let found := columnWidths isDown (n + 1) widths
    if found.foldl (· + ·) 0 < line then found
    else fittingColumns isDown line widths n

/-- Texts in columns, or all on one line if that has no end. -/
def Listing.inColumns (l : Listing) (isDown : Bool) (texts : List (List Char)) : List Char :=
  if l.width = 0 then [' ', ' '].intercalate texts ++ [l.mark] else
  let widths := texts.map List.length
  let most := min texts.length (begun l.width 3)
  let columns := fittingColumns isDown l.width widths most
  let rows := begun texts.length columns.length
  let line (row : Nat) : List Char :=
    let cells := (List.range columns.length).filterMap fun c =>
      (texts[if isDown then c * rows + row else row * columns.length + c]?).map (c, ·)
    let (cs, _, _) := cells.foldl (fun (cs, position, start) (c, text) =>
      let gap := indent l.tab start (start + 1) position
      (cs ++ gap ++ text, start + text.length, start + columns.getD c 0)) ([], 0, 0)
    cs ++ [l.mark]
  (List.range rows).flatMap line

/-- Texts with commas between them, on lines that are not too long. -/
def Listing.withCommas (l : Listing) (texts : List (List Char)) : List Char :=
  let (cs, _) := texts.foldl (fun (cs, position?) text =>
    match position? with
    | none => (text, some text.length)
    | some position =>
      if l.width = 0 || position + text.length + 2 < l.width then
        (cs ++ [',', ' '] ++ text, some (position + text.length + 2))
      else (cs ++ [',', l.mark] ++ text, some text.length)) (([] : List Char), (none : Option Nat))
  if texts.isEmpty then [] else cs ++ [l.mark]

/-! ### Lines with everything -/

/-- The letter for the kind of a file. -/
def kindLetter (node : Node) : Char :=
  match node with
  | .directory => 'd'
  | .file _ | .program => '-'
  | .device _ => 'c'
  | .link _ => 'l'
  | .pipe _ => 'p'

/-- How many names lead to something. -/
def linkCount (sh : Shell) (x : Listed) : Nat :=
  match x.item.node with
  | .directory =>
    2 + ((sh.files.names x.place).filter fun n =>
      sh.files.node? (x.place ++ [n]) = some .directory).length
  | _ =>
    let number := sh.files.number? x.place
    (sh.files.entries.filter fun e => some e.2 = number).length

/-- The numbers of a device. -/
def deviceNumbers (d : Device) : Nat × Nat :=
  match d with
  | .null => (1, 3)
  | .zero => (1, 5)
  | .full => (1, 7)
  | .terminal => (5, 0)

/-- Half a year, in nanoseconds. -/
def halfYear : Int := 15778476 * nanosPerSecond

def Listing.moment (l : Listing) (sh : Shell) (item : Item) : List Char :=
  let now := sh.files.now
  let isRecent := now - halfYear < item.modified && item.modified ≤ now
  (Moment.mk item.modified).written (if isRecent then l.recent else l.old)

/-- The text of what a file holds in bytes, or of the numbers of a device. -/
def Listing.sizeText (l : Listing) (item : Item) : List Char :=
  match item.node with
  | .device d => numeral (deviceNumbers d).1 ++ bytes ", " ++ numeral (deviceNumbers d).2
  | _ => l.sizes.text (sizeOf item)

/-- A text moved to the right end of a field. -/
def rightwards (width : Nat) (cs : List Char) : List Char :=
  List.replicate (width - cs.length) ' ' ++ cs

/-- The greatest length of texts. -/
def greatest (texts : List (List Char)) : Nat := (texts.map List.length).foldl max 0

/-- What stands in front of the names: numbers, and the room that is taken up. -/
def Listing.fronts (l : Listing) (sh : Shell) (all : List Listed) : List (List Char) :=
  let isLoose := l.arrangement = .commas
  let numbers := all.map fun x => numeral ((sh.files.number? x.place).getD 0)
  let blocks := all.map fun x => l.blocks.text (roomOf x.item)
  let field (texts : List (List Char)) (t : List Char) : List Char :=
    rightwards (if isLoose then 0 else greatest texts) t ++ [' ']
  List.zipWith (fun n b =>
    (if l.showsNumbers then field numbers n else []) ++
      (if l.showsBlocks then field blocks b else [])) numbers blocks

/-- What a link stands for, as it is shown behind its name. -/
def Listing.targetOf (l : Listing) (sh : Shell) (x : Listed) : List Char :=
  match x.item.node with
  | .link target =>
    let there := (sh.files.findItem x.place.dropLast target).toOption
    bytes " -> " ++ l.shown target ++ ((there.map l.markOf).getD [])
  | _ => l.markOf x.item

def Listing.longLines (l : Listing) (sh : Shell) (someQuoted : Bool) (all : List Listed) :
    List Char :=
  let counts := all.map fun x => numeral (linkCount sh x)
  let sizes := all.map fun x => l.sizeText x.item
  let owner := if l.areNumeric then bytes "0 " else bytes "root "
  let owners := (if l.showsOwner then owner else []) ++ (if l.showsGroup then owner else []) ++
    (if l.showsAuthor then owner else [])
  let line (front count size : List Char) (x : Listed) : List Char :=
    front ++ kindLetter x.item.node :: Rights.text x.item.rights ++ [' '] ++
      rightwards (greatest counts) count ++ [' '] ++ owners ++
      rightwards (greatest sizes) size ++ [' '] ++ l.moment sh x.item ++ [' '] ++
      l.placed someQuoted x.name ++ l.targetOf sh x ++ [l.mark]
  ((((l.fronts sh all).zip counts).zip sizes).zip all).flatMap fun (((f, c), s), x) => line f c s x

/-- Everything that is listed together. -/
def Listing.text (l : Listing) (sh : Shell) (all : List Listed) : List Char :=
  let someQuoted := l.aligns && all.any fun x => l.shown x.name ≠ x.name
  let texts := List.zipWith (fun f x => f ++ l.placed someQuoted x.name ++ l.markOf x.item)
    (l.fronts sh all) all
  match l.arrangement with
  | .single => texts.flatMap (· ++ [l.mark])
  | .long => l.longLines sh someQuoted all
  | .columns => if all.isEmpty then [] else l.inColumns true texts
  | .rows => if all.isEmpty then [] else l.inColumns false texts
  | .commas => l.withCommas texts

/-! ### Directories -/

/-- Whether a name is listed among those in a directory. -/
def Listing.lists (l : Listing) (name : Name) : Bool :=
  let fits (patterns : List (List Char)) : Bool := patterns.any fun g =>
    (name.head? ≠ some '.' || g.head? = some '.') && Glob.fits (Glob.parts (g.length + 1) g) name
  let isDotted := name.head? = some '.'
  !(isDotted && l.dots = .none) && !fits l.ignored && !(l.dots = .none && fits l.concealed) &&
    !(l.dropsBackups && name.getLast? = some '~')

/-- What is in a directory, as far as it is listed. -/
def Listing.inside (l : Listing) (sh : Shell) (p : Place) : List Listed :=
  let own (name : Name) (q : Place) : List Listed :=
    (sh.files.item? q).toList.map fun item => { name, place := q, item }
  let dots := if l.dots = .all then own ['.'] p ++ own ['.', '.'] p.dropLast else []
  let dots := dots.filter fun x => !(l.ignored.any fun g =>
    Glob.fits (Glob.parts (g.length + 1) g) x.name)
  let follow (x : Listed) : Listed :=
    if l.followsAll then
      match sh.files.findItem p x.name with
      | .ok item => { x with item }
      | .error _ => x
    else x
  dots ++ ((sh.files.names p).filter l.lists).flatMap fun n => (own n (p ++ [n])).map follow

/-- Lists a directory, and those in it if that is asked for. The flag tells whether nothing has been
  printed so far, and the number bounds the depth. -/
def Listing.directory (l : Listing) (isTitled : Bool) :
    Nat → Shell × Bool → Name → Place → Shell × Bool
  | 0, acc, _, _ => acc
  | n + 1, (sh, isFirst), name, p =>
    let all := l.sorted (l.inside sh p)
    let gap := if isFirst || !isTitled then [] else ['\n']
    let title := if isTitled then l.shown name ++ [':', '\n'] else []
    let room := (all.map fun x => roomOf x.item).foldl (· + ·) 0
    let total := if l.arrangement = .long || l.showsBlocks then
        bytes "total " ++ l.blocks.text room ++ [l.mark]
      else []
    let sh := sh.print (gap ++ title ++ total ++ l.text sh all)
    if !l.isDeep then (sh, false)
    else
      (all.filter fun x => x.item.node = .directory && x.name ≠ ['.'] && x.name ≠ ['.', '.']).foldl
        (fun acc x => l.directory isTitled n acc (within name [x.name]) x.place) (sh, false)

/-- What is at a name that is given. -/
def Listing.named (l : Listing) (sh : Shell) (name : Name) : Except PathFault Listed := do
  let entry (r : Place × Item) : Listed := { name, place := r.1, item := r.2 }
  let followed := (present (look sh name)).map entry
  let plain := (present (lookAt sh name)).map entry
  if l.followsAll then followed
  else if l.followsNamed then
    match followed with
    | .ok x => return x
    | .error _ => plain
  else if l.arrangement = .long || l.namesDirectories || l.marks = .all then plain
  else
    match followed with
    | .ok x => if x.item.node = .directory then return x else plain
    | .error .missing => plain
    | .error f => .error f

/-- Lists all that is named. -/
def Listing.run (l : Listing) (sh : Shell) (names : List Name) : Shell :=
  let (sh, found) := names.foldl (fun (sh, found) name =>
    match l.named sh name with
    | .ok x => (sh, found ++ [x])
    | .error f => (complain sh "ls" (quotedFault "cannot access" name f) 2, found))
    (sh.withStatus 0, [])
  let isEntered (x : Listed) : Bool := x.item.node = .directory && !l.namesDirectories
  let files := l.sorted (found.filter fun x => !isEntered x)
  let sh := sh.print (l.text sh files)
  let isTitled := l.isDeep || 1 < names.length || !files.isEmpty
  ((l.sorted (found.filter isEntered)).foldl (fun acc x =>
    l.directory isTitled (sh.files.entries.length + 2) acc x.name x.place) (sh, files.isEmpty)).1

/-! ### Options -/

def lsTable : OptionTable where
  letters := "abcdfghiklmnopqrstuvw:xABCDFGHI:LNQRST:UXZ1"
  names := [("all", "a"), ("escape", "b"), ("directory", "d"), ("dired", "D"), ("full-time", ""),
    ("group-directories-first", ""), ("human-readable", "h"), ("inode", "i"), ("kibibytes", "k"),
    ("numeric-uid-gid", "n"), ("no-group", "G"), ("hide-control-chars", "q"), ("reverse", "r"),
    ("size", "s"), ("width", "w"), ("almost-all", "A"), ("ignore-backups", "B"),
    ("classify", "::"), ("file-type", ""), ("si", ""), ("dereference-command-line", "H"),
    ("dereference-command-line-symlink-to-dir", ""), ("hide", ":"), ("ignore", "I"),
    ("indicator-style", ":"), ("dereference", "L"), ("literal", "N"), ("quote-name", "Q"),
    ("quoting-style", ":"), ("recursive", "R"), ("format", ":"), ("show-control-chars", ""),
    ("sort", ":"), ("tabsize", "T"), ("time", ":"), ("time-style", ":"), ("zero", ""),
    ("color", "::"), ("hyperlink", "::"), ("block-size", ":"), ("context", "Z"), ("author", "")]

def sortKeys : List (List String) :=
  [["none"], ["time"], ["size"], ["extension"], ["version"], ["width"]]

def arrangementKinds : List (List String) :=
  [["verbose", "long"], ["commas"], ["horizontal", "across"], ["vertical"], ["single-column"]]

def colorKinds : List (List String) :=
  [["always", "yes", "force"], ["never", "no", "none"], ["auto", "tty", "if-tty"]]

def markKinds : List (List String) := [["none"], ["slash"], ["file-type"], ["classify"]]

def timeKeys : List (List String) :=
  [["atime", "access", "use"], ["ctime", "status"], ["mtime", "modification"],
    ["birth", "creation"]]

def quotingKinds : List (List String) :=
  [["literal"], ["shell"], ["shell-always"], ["shell-escape"], ["shell-escape-always"], ["c"],
    ["c-maybe"], ["escape"], ["locale"], ["clocale"]]

def timeStyles : List (List String) := [["full-iso"], ["long-iso"], ["iso"], ["locale"]]

def quotingOf (name : String) : Quoting :=
  match name with
  | "shell" => .shell
  | "shell-always" => .shellAlways
  | "shell-escape" => .shellEscape
  | "shell-escape-always" => .shellEscapeAlways
  | "c" | "clocale" => .doubled
  | "c-maybe" => .doubledIfNeeded
  | "escape" => .escape
  | "locale" => .quoted
  | _ => .literal

/-- A style of moments that goes by a name, if there is one. -/
def Listing.timed (l : Listing) (style : List Char) : Option Listing :=
  let bare := ((bytes "posix-").isPrefixOf? style).getD style
  match style with
  | '+' :: pattern =>
    let (old, recent) := pattern.span (· ≠ '\n')
    some { l with old, recent := if recent.isEmpty then old else recent.tail }
  | _ =>
    match choice? timeStyles bare with
    | some "full-iso" =>
      let pattern := bytes "%Y-%m-%d %H:%M:%S.%N %z"
      some { l with old := pattern, recent := pattern }
    | some "long-iso" =>
      some { l with old := bytes "%Y-%m-%d %H:%M", recent := bytes "%Y-%m-%d %H:%M" }
    | some "iso" => some { l with old := bytes "%Y-%m-%d ", recent := bytes "%m-%d %H:%M" }
    | some _ => some l
    | none => none

def Listing.apply (l : Listing) (o : GivenOption) : Listing :=
  let value := o.value.getD []
  match o.key with
  | "a" => { l with dots := .all }
  | "A" => { l with dots := .almostAll }
  | "b" => { l with quoting := .escape }
  | "B" => { l with dropsBackups := true }
  | "C" => { l with arrangement := .columns }
  | "d" => { l with namesDirectories := true }
  | "f" =>
    { l with
      dots := .all, key := .unsorted, showsBlocks := false
      arrangement := if l.arrangement = .long then .single else l.arrangement }
  | "F" => { l with marks := .all }
  | "classify" =>
    match choice? colorKinds value with
    | some "never" | some "auto" => l
    | _ => { l with marks := .all }
  | "file-type" => { l with marks := .kinds }
  | "g" => { l with arrangement := .long, showsOwner := false }
  | "G" => { l with showsGroup := false }
  | "h" => { l with sizes := .fitting 1024, blocks := .fitting 1024 }
  | "si" => { l with sizes := .fitting 1000, blocks := .fitting 1000 }
  | "H" => { l with followsNamed := true }
  | "i" => { l with showsNumbers := true }
  | "I" => { l with ignored := value :: l.ignored }
  | "hide" => { l with concealed := value :: l.concealed }
  | "l" => { l with arrangement := .long }
  | "L" => { l with followsAll := true }
  | "m" => { l with arrangement := .commas }
  | "n" => { l with arrangement := .long, areNumeric := true }
  | "N" => { l with quoting := .literal }
  | "o" => { l with arrangement := .long, showsGroup := false }
  | "p" => { l with marks := .slashes }
  | "q" => { l with hidesControls := true }
  | "Q" => { l with quoting := .doubled }
  | "r" => { l with isReversed := true }
  | "R" => { l with isDeep := true }
  | "s" => { l with showsBlocks := true }
  | "S" => { l with key := .size }
  | "t" => { l with key := .time }
  | "T" => { l with tab := natural value }
  | "u" | "c" => l
  | "U" => { l with key := .unsorted }
  | "v" => { l with key := .version }
  | "w" => { l with width := natural value }
  | "x" => { l with arrangement := .rows }
  | "X" => { l with key := .ending }
  | "1" => { l with arrangement := if l.arrangement = .long then .long else .single }
  | "author" => { l with showsAuthor := true }
  | "zero" =>
    { l with
      mark := '\x00', quoting := .literal
      arrangement := if l.arrangement = .long then .long else .single }
  | "full-time" => ({ l with arrangement := .long }.timed (bytes "full-iso")).getD l
  | "time-style" => (l.timed value).getD l
  | "group-directories-first" => { l with directoriesFirst := true }
  | "show-control-chars" => { l with hidesControls := false }
  | "quoting-style" => { l with quoting := quotingOf ((choice? quotingKinds value).getD "") }
  | "block-size" =>
    match scaleOf? value with
    | some s => { l with sizes := s, blocks := s }
    | none => l
  | "indicator-style" =>
    match choice? markKinds value with
    | some "slash" => { l with marks := .slashes }
    | some "file-type" => { l with marks := .kinds }
    | some "classify" => { l with marks := .all }
    | _ => { l with marks := .none }
  | "format" =>
    match choice? arrangementKinds value with
    | some "verbose" => { l with arrangement := .long }
    | some "commas" => { l with arrangement := .commas }
    | some "horizontal" => { l with arrangement := .rows }
    | some "vertical" => { l with arrangement := .columns }
    | _ => { l with arrangement := .single }
  | "sort" =>
    match choice? sortKeys value with
    | some "time" => { l with key := .time }
    | some "size" => { l with key := .size }
    | some "extension" => { l with key := .ending }
    | some "version" => { l with key := .version }
    | some "width" => { l with key := .width }
    | _ => { l with key := .unsorted }
  | _ => l

/-- What is wrong with the value of an option that is none of those that there are. -/
def listingChoice? (sh : Shell) (o : GivenOption) : Option (List Char) := do
  let value ← o.value
  match o.key with
  | "sort" => badChoice? sh "ls" "sort" value sortKeys
  | "format" => badChoice? sh "ls" "format" value arrangementKinds
  | "color" => badChoice? sh "ls" "color" value colorKinds
  | "hyperlink" => badChoice? sh "ls" "hyperlink" value colorKinds
  | "classify" => badChoice? sh "ls" "classify" value colorKinds
  | "indicator-style" => badChoice? sh "ls" "indicator-style" value markKinds
  | "time" => badChoice? sh "ls" "time" value timeKeys
  | "quoting-style" => badChoice? sh "ls" "quoting-style" value quotingKinds
  | _ => none

def listingFault? (_ : Shell) (o : GivenOption) : Option (List Char) := do
  let value ← o.value
  let isNumber := !value.isEmpty && value.all Char.isDigit
  match o.key with
  | "w" => if isNumber then none else some (bytes "invalid line width: " ++ inEscapes value)
  | "T" => if isNumber then none else some (bytes "invalid tab size: " ++ inEscapes value)
  | "block-size" =>
    if (scaleOf? value).isSome then none
    else some (bytes "invalid --block-size argument " ++ inEscapes value)
  | _ => none

/-- What is wrong with a style of moments. -/
def badTimeStyle (sh : Shell) (value : List Char) : List Char :=
  bytes "invalid argument " ++ inEscapes value ++
    bytes (" for 'time style'\nValid arguments are:" ++
    "\n  - [posix-]full-iso\n  - [posix-]long-iso\n  - [posix-]iso\n  - [posix-]locale" ++
    "\n  - +FORMAT (e.g., +%H:%M) for a 'date'-style format") ++ hint sh "ls"

def list : Builtin := withOptions "ls" 2 lsTable listingFault? fun os sh names =>
  let columns := ((sh.get? (bytes "COLUMNS")).filter fun cs =>
    !cs.isEmpty && cs.all Char.isDigit).map natural
  let l := os.foldl Listing.apply { width := columns.getD 80 }
  let styled := os.filter fun o => o.key = "time-style"
  match os.findSome? (listingChoice? sh),
      styled.findSome? fun o => o.value.filter fun v => (l.timed v).isNone with
  | some message, _ => complain sh "ls" message 1
  | none, some style =>
    if l.arrangement = .long then complain sh "ls" (badTimeStyle sh style) 2
    else l.run sh (if names.isEmpty then [['.']] else names)
  | none, none => l.run sh (if names.isEmpty then [['.']] else names)

end Utility

end Crond.Script
