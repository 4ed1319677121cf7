import Mathlib.Data.List.Induction
import AuctionHouse.Accounts.Basic

/-!
# Whose account is opened

A name is followed like a path, so it leads to a home, and the account is the file of one fixed name
in there.  The address of a user is the first line of that file and depends on no other.  Whoever
has a name that an entry of a folder could have is at home in the folder of that name among all
accounts, so no two such users share a file.  Other names are not kept apart: one may lead to the
home of somebody else, and one may lead to where no account should be.
-/

namespace AuctionHouse

/-! ## Paths and where they lead -/

/-- A text that an entry of a folder can have as its name. -/
structure IsEntryName (name : String) : Prop where
  /-- There is something in it. -/
  filled : name ≠ ""
  /-- It is not the name by which a folder has itself. -/
  onward : name ≠ "."
  /-- It is not the name by which a folder has the one above it. -/
  downward : name ≠ ".."
  /-- There is no slash in it. -/
  whole : '/' ∉ name.toList

instance (name : String) : Decidable (IsEntryName name) :=
  decidable_of_iff (name ≠ "" ∧ name ≠ "." ∧ name ≠ ".." ∧ '/' ∉ name.toList)
    ⟨fun ⟨filled, onward, downward, whole⟩ => ⟨filled, onward, downward, whole⟩,
      fun entry => ⟨entry.filled, entry.onward, entry.downward, entry.whole⟩⟩

/-- The parts of a path. -/
def pathParts (path : List Char) : List String := (path.splitOn '/').map String.ofList

theorem pathParts_append_slash (path part : List Char) :
    pathParts (path ++ '/' :: part) = pathParts path ++ pathParts part := by
  rw [pathParts, List.splitOn_append_cons_self, List.map_append, pathParts, pathParts]

theorem IsEntryName.pathParts_eq {name : String} (entry : IsEntryName name) :
    pathParts name.toList = [name] := by
  rw [pathParts, List.splitOn_eq_singleton entry.whole, List.map_singleton, String.ofList_toList]

namespace Path

variable {parts : List String} {names : Path}

/-- Where one part of a path leads. -/
def step (place : Path) (part : String) : Path :=
  if part = "" ∨ part = "." then place
  else if part = ".." then place.dropLast
  else place ++ [part]

/-- Where the parts of a path lead if there are folders all the way. -/
def walk (place : Path) (parts : List String) : Path := parts.foldl step place

theorem walk_append (place : Path) (first second : List String) :
    walk place (first ++ second) = walk (walk place first) second :=
  List.foldl_append

/-- Without two dots there is no way back. -/
theorem walk_of_descending (place : Path) (descending : ".." ∉ parts) :
    walk place parts = place ++ parts.filter fun part => !decide (part = "" ∨ part = ".") := by
  induction parts generalizing place with
  | nil => exact (List.append_nil place).symm
  | cons part rest induction =>
      obtain ⟨other, further⟩ := not_or.mp (mt List.mem_cons.mpr descending)
      rw [walk, List.foldl_cons, ← walk, induction _ further, step]
      by_cases stays : part = "" ∨ part = "."
      · rw [if_pos stays, List.filter_cons_of_neg (by simp [stays])]
      · rw [if_neg stays, if_neg (Ne.symm other), List.filter_cons_of_pos (by simp [stays]),
          List.append_assoc, List.singleton_append]

theorem walk_of_entries (place : Path) (entries : ∀ name ∈ names, IsEntryName name) :
    walk place names = place ++ names := by
  have descending : ".." ∉ names := fun back => (entries ".." back).downward rfl
  rw [walk_of_descending place descending, List.filter_eq_self.mpr]
  intro name member
  simp [(entries name member).filled, (entries name member).onward]

/-- A place as a path from the top. -/
def written (place : Path) : List Char := place.flatMap fun name => '/' :: name.toList

theorem written_concat (place : Path) (name : String) :
    written (place ++ [name]) = written place ++ '/' :: name.toList := by
  simp [written]

/-- The parts of a written place are its names, behind what is before the first slash. -/
theorem pathParts_written (entries : ∀ name ∈ names, IsEntryName name) :
    pathParts names.written = "" :: names := by
  induction names using List.reverseRecOn with
  | nil => rfl
  | append_singleton front last induction =>
      obtain ⟨others, entry⟩ := List.forall_mem_append.mp entries
      rw [written_concat, pathParts_append_slash, induction others,
        (entry last (List.mem_singleton_self last)).pathParts_eq, List.cons_append]

end Path

namespace AccountFolder

open AuctionHouse.Path

variable {folder : AccountFolder} {user other : String} {place target : Path}

/-! ## Homes -/

/-- Where the path of the folder of all accounts leads. -/
def base (folder : AccountFolder) : Path := walk [] (pathParts folder.rootPath)

/-- Where a user's name leads: from the folder of all accounts or, if a slash is in front of it,
from the top. -/
def home (folder : AccountFolder) (user : String) : Path :=
  walk (if user.toList.head? = some '/' then [] else folder.base) (pathParts user.toList)

/-- A slash more or less between two paths makes no difference. -/
theorem walk_extend (place : Path) (path part : List Char) :
    walk place (pathParts (extend path part)) =
      walk (walk place (pathParts path)) (pathParts part) := by
  rw [extend]
  split
  case isTrue slash =>
    -- The last part of the first path is empty, and an empty part leads nowhere else.
    obtain ⟨front, rfl⟩ := List.getLast?_eq_some_iff.mp slash
    rw [List.append_assoc, List.singleton_append, pathParts_append_slash, pathParts_append_slash,
      walk_append, walk_append]
    rfl
  case isFalse => rw [pathParts_append_slash, walk_append]

theorem walk_path (folder : AccountFolder) (user : String) :
    walk [] (pathParts (folder.path user)) = folder.home user ++ [fileName] := by
  have file : ∀ name ∈ [fileName], IsEntryName name := by decide
  rw [path, walk_extend, (file fileName (List.mem_singleton_self _)).pathParts_eq,
    walk_of_entries _ file, home, base]
  split
  · rfl
  · rw [walk_extend]

/-- A name that neither begins at the top nor goes back leads into the folder of all accounts. -/
theorem home_of_descending (folder : AccountFolder) (relative : user.toList.head? ≠ some '/')
    (descending : ".." ∉ pathParts user.toList) :
    folder.home user = folder.base ++
      (pathParts user.toList).filter fun part => !decide (part = "" ∨ part = ".") := by
  rw [home, if_neg relative, walk_of_descending _ descending]

theorem follow?_cons (folder : AccountFolder) (place : Path) (part : String) (rest : List String) :
    folder.follow? place (part :: rest) =
      if folder.isFolder place then folder.follow? (step place part) rest else none := by
  rw [follow?, step, apply_ite (folder.follow? · rest), apply_ite (folder.follow? · rest)]

theorem follow?_eq_walk {parts : List String}
    (followed : folder.follow? place parts = some target) : target = walk place parts := by
  induction parts generalizing place with
  | nil => exact (Option.some.inj followed).symm
  | cons part rest induction =>
      rw [follow?_cons] at followed
      split at followed
      · exact induction followed
      · contradiction

/-- The path to the account of a user is no longer than a path may be. -/
def Fits (folder : AccountFolder) (user : String) : Prop :=
  (String.ofList (folder.path user)).utf8ByteSize ≤ longestPath

instance (folder : AccountFolder) (user : String) : Decidable (folder.Fits user) :=
  inferInstanceAs (Decidable (_ ≤ _))

theorem place?_eq (folder : AccountFolder) (user : String) :
    folder.place? user =
      if folder.Fits user then folder.follow? [] (pathParts (folder.path user)) else none := rfl

/-- An account is never looked for anywhere but at home. -/
theorem place?_eq_home (led : folder.place? user = some place) :
    place = folder.home user ++ [fileName] := by
  rw [place?_eq] at led
  split at led
  · rw [follow?_eq_walk led, walk_path]
  · contradiction

/-! ## Files and their contents -/

/-- The address that stands in an account: its first line, trimmed, if it is text. -/
def address? (bytes : List UInt8) : Option String := do
  let text ← (Text.ofUtf8 bytes).toOption
  firstLine? text

theorem email?_eq (folder : AccountFolder) (user : String) :
    folder.email? user =
      (folder.place? user).bind fun place => (folder.contents? place).bind address? := rfl

/-- The file in this place is the account that is opened for a user. -/
structure Opens (folder : AccountFolder) (user : String) (place : Path) : Prop where
  /-- The user's name leads there. -/
  led : folder.place? user = some place
  /-- There is a file. -/
  held : (folder.contents? place).isSome = true

instance (folder : AccountFolder) (user : String) (place : Path) :
    Decidable (folder.Opens user place) :=
  decidable_of_iff (folder.place? user = some place ∧ (folder.contents? place).isSome = true)
    ⟨fun ⟨led, held⟩ => ⟨led, held⟩, fun opens => ⟨opens.led, opens.held⟩⟩

/-- An account that is opened for somebody is opened for a user as well just if the user's name leads
somewhere and the homes are the same. -/
theorem Opens.opens_iff (opened : folder.Opens other place) :
    folder.Opens user place ↔
      (folder.place? user).isSome = true ∧ folder.home user = folder.home other := by
  have there := place?_eq_home opened.led
  constructor
  · intro opens
    have here := place?_eq_home opens.led
    exact ⟨Option.isSome_of_eq_some opens.led, List.append_cancel_right (here.symm.trans there)⟩
  · rintro ⟨found, same⟩
    obtain ⟨target, led⟩ := Option.isSome_iff_exists.mp found
    have here := place?_eq_home led
    rw [same, ← there] at here
    exact ⟨here ▸ led, opened.held⟩

/-- The same files with other contents in one of them. -/
def overwrite (folder : AccountFolder) (place : Path) (bytes : List UInt8) : AccountFolder :=
  { folder with
    files := folder.files.map fun file => (file.1, if file.1 = place then bytes else file.2) }

theorem contents?_overwrite (folder : AccountFolder) (place target : Path) (bytes : List UInt8) :
    (folder.overwrite place bytes).contents? target =
      if target = place then (folder.contents? target).map fun _ => bytes
      else folder.contents? target := by
  have found : (folder.overwrite place bytes).contents? target =
      (folder.files.reverse.find? fun file => decide (file.1 = target)).map
        fun file => if file.1 = place then bytes else file.2 := by
    rw [contents?, overwrite, ← List.map_reverse, List.find?_map, Option.map_map]
    rfl
  rw [found, contents?]
  cases first : folder.files.reverse.find? fun file => decide (file.1 = target) with
  | none => simp
  | some file =>
      have there : file.1 = target := by simpa using List.find?_some first
      rw [Option.map_some, Option.map_some, Option.map_some, there]
      exact apply_ite some _ _ _

theorem isFolder_overwrite (folder : AccountFolder) (place target : Path) (bytes : List UInt8) :
    (folder.overwrite place bytes).isFolder target = folder.isFolder target := by
  rw [isFolder, overwrite, List.any_map]
  rfl

/-- Where a name leads is a matter of where there are files, not of what is in them. -/
theorem place?_overwrite (folder : AccountFolder) (place : Path) (bytes : List UInt8)
    (user : String) : (folder.overwrite place bytes).place? user = folder.place? user := by
  have followed (start : Path) (parts : List String) :
      (folder.overwrite place bytes).follow? start parts = folder.follow? start parts := by
    induction parts generalizing start with
    | nil => rfl
    | cons part rest induction =>
        rw [follow?_cons, follow?_cons, isFolder_overwrite, induction]
  rw [place?_eq, place?_eq, followed]
  rfl

/-- The address of a user is the same whatever is in this file. -/
def Disregards (folder : AccountFolder) (user : String) (place : Path) : Prop :=
  ∀ bytes, (folder.overwrite place bytes).email? user = folder.email? user

theorem email?_overwrite_of_opens (opens : folder.Opens user place) (bytes : List UInt8) :
    (folder.overwrite place bytes).email? user = address? bytes := by
  obtain ⟨before, held⟩ := Option.isSome_iff_exists.mp opens.held
  rw [email?_eq, place?_overwrite, opens.led, Option.bind_some, contents?_overwrite, if_pos rfl,
    held]
  rfl

theorem disregards_iff (held : (folder.contents? place).isSome = true) :
    folder.Disregards user place ↔ ¬folder.Opens user place := by
  constructor
  · intro disregards opens
    -- There are contents with and without an address in them.
    have empty := (email?_overwrite_of_opens opens []).symm.trans (disregards [])
    have letter := (email?_overwrite_of_opens opens (Text.utf8Bytes "a")).symm.trans
      (disregards (Text.utf8Bytes "a"))
    exact absurd (empty.trans letter.symm) (by decide +kernel)
  · intro closed bytes
    rw [email?_eq, email?_eq, place?_overwrite]
    cases led : folder.place? user with
    | none => rfl
    | some target =>
        have elsewhere : target ≠ place := by
          rintro rfl
          exact closed ⟨led, held⟩
        rw [Option.bind_some, Option.bind_some, contents?_overwrite, if_neg elsewhere]

/-! ## Users with names that entries can have -/

theorem extend_written {names : Path} (entries : ∀ name ∈ names, IsEntryName name)
    (name : String) : extend names.written name.toList = written (names ++ [name]) := by
  have noSlash : names.written.getLast? ≠ some '/' := by
    intro slash
    rcases List.eq_nil_or_concat names with rfl | ⟨front, last, rfl⟩
    · contradiction
    · have entry : IsEntryName last := entries last (by simp)
      rw [List.concat_eq_append, written_concat, List.getLast?_append, List.getLast?_cons,
        Option.some_or] at slash
      cases ends : last.toList.getLast? with
      | none => exact entry.filled (String.toList_eq_nil_iff.mp (List.getLast?_eq_none_iff.mp ends))
      | some character =>
          rw [ends] at slash
          obtain rfl : character = '/' := Option.some.inj slash
          exact entry.whole (List.mem_of_getLast? ends)
  rw [extend, if_neg noSlash, written_concat]

theorem head?_ne_of_entry (entry : IsEntryName user) : user.toList.head? ≠ some '/' :=
  fun slash => entry.whole (List.mem_of_head? slash)

theorem home_of_entry (folder : AccountFolder) (entry : IsEntryName user) :
    folder.home user = folder.base ++ [user] := by
  have alone : ∀ name ∈ [user], IsEntryName name := List.forall_mem_singleton.mpr entry
  rw [home, if_neg (head?_ne_of_entry entry), entry.pathParts_eq, walk_of_entries _ alone]

/-- The folder of all accounts is written with names that entries can have. -/
def Rooted (folder : AccountFolder) : Prop := ∀ name ∈ folder.root, IsEntryName name

instance (folder : AccountFolder) : Decidable folder.Rooted :=
  inferInstanceAs (Decidable (∀ name ∈ folder.root, _))

theorem Rooted.base_eq (rooted : folder.Rooted) : folder.base = folder.root := by
  have parts : pathParts folder.rootPath = "" :: folder.root := pathParts_written rooted
  rw [base, parts]
  exact walk_of_entries [] rooted

theorem Rooted.path_eq (rooted : folder.Rooted) (entry : IsEntryName user) :
    folder.path user = written (folder.root ++ [user, fileName]) := by
  have both : ∀ name ∈ folder.root ++ [user], IsEntryName name :=
    List.forall_mem_append.mpr ⟨rooted, List.forall_mem_singleton.mpr entry⟩
  have top : folder.rootPath = written folder.root := rfl
  rw [path, if_neg (head?_ne_of_entry entry), top, extend_written rooted, extend_written both,
    List.append_assoc, List.singleton_append]

theorem isFolder_of_held {after : Path} (held : (folder.contents? (place ++ after)).isSome = true)
    (further : after ≠ []) : folder.isFolder place = true := by
  obtain ⟨bytes, held⟩ := Option.isSome_iff_exists.mp held
  obtain ⟨file, found, -⟩ := Option.map_eq_some_iff.mp held
  have there : file.1 = place ++ after := by simpa using List.find?_some found
  have listed : file ∈ folder.files := by simpa using List.mem_of_find?_eq_some found
  rw [isFolder, Bool.or_eq_true, List.any_eq_true]
  exact .inr ⟨file, listed, by simp [there, further]⟩

/-- All the way to a file there are folders. -/
theorem follow?_of_held {names : Path} (entries : ∀ name ∈ names, IsEntryName name)
    (held : (folder.contents? (place ++ names)).isSome = true) :
    folder.follow? place names = some (place ++ names) := by
  induction names generalizing place with
  | nil => rw [follow?, List.append_nil]
  | cons name rest induction =>
      obtain ⟨entry, others⟩ := List.forall_mem_cons.mp entries
      have through : place ++ name :: rest = place ++ [name] ++ rest := by simp
      rw [follow?_cons, if_pos (isFolder_of_held held (List.cons_ne_nil _ _)), step,
        if_neg (not_or.mpr ⟨entry.filled, entry.onward⟩), if_neg entry.downward]
      rw [through] at held ⊢
      exact induction others held

theorem Rooted.email?_eq (rooted : folder.Rooted) (entry : IsEntryName user)
    (fits : folder.Fits user) :
    folder.email? user = (folder.contents? (folder.root ++ [user, fileName])).bind address? := by
  have names : ∀ name ∈ folder.root ++ [user, fileName], IsEntryName name :=
    List.forall_mem_append.mpr
      ⟨rooted, List.forall_mem_cons.mpr ⟨entry, List.forall_mem_singleton.mpr (by decide)⟩⟩
  cases held : folder.contents? (folder.root ++ [user, fileName]) with
  | none =>
      rw [AccountFolder.email?_eq]
      cases led : folder.place? user with
      | none => rfl
      | some place =>
          have there := place?_eq_home led
          rw [home_of_entry folder entry, rooted.base_eq, List.append_assoc] at there
          rw [Option.bind_some, there, List.singleton_append, held]
  | some bytes =>
      have top : folder.isFolder [] = true := by simp [isFolder]
      have led : folder.place? user = some (folder.root ++ [user, fileName]) := by
        rw [place?_eq, if_pos fits, rooted.path_eq entry, pathParts_written names, follow?_cons,
          if_pos top]
        exact follow?_of_held names (Option.isSome_of_eq_some held)
      rw [AccountFolder.email?_eq, led, Option.bind_some, held]

/-- The address of a user is the first line of the account at home, which is among all accounts
unless the name begins at the top or goes back.  It disregards the account of somebody else just if
that is not opened for the user as well, so just if the homes differ or the user's name leads
nowhere.  Users with names that entries can have are at home in the folders of these names, each in
another one; so none of them depends on the account of another, and each has the address in the
account of that name. -/
theorem email_from_home (folder : AccountFolder) (user : String) :
    (∀ email, folder.email? user = some email →
        ∃ bytes, folder.contents? (folder.home user ++ [fileName]) = some bytes ∧
          address? bytes = some email) ∧
      (user.toList.head? ≠ some '/' → ".." ∉ pathParts user.toList →
        folder.base <+: folder.home user) ∧
      (∀ other place, folder.Opens other place →
        (folder.Disregards user place ↔ ¬folder.Opens user place) ∧
          (folder.Opens user place ↔
            (folder.place? user).isSome = true ∧ folder.home user = folder.home other)) ∧
      (IsEntryName user →
        folder.home user = folder.base ++ [user] ∧
          (∀ other place, IsEntryName other → other ≠ user → folder.Opens other place →
            folder.Disregards user place) ∧
          (folder.Rooted →
            folder.base = folder.root ∧
              (folder.Fits user → folder.email? user =
                (folder.contents? (folder.root ++ [user, fileName])).bind address?))) := by
  refine ⟨fun email found => ?_, fun relative descending => ?_, fun other place opened =>
    ⟨disregards_iff opened.held, opened.opens_iff⟩, fun entry =>
    ⟨home_of_entry folder entry, fun other place entry' differ opened => ?_, fun rooted =>
      ⟨rooted.base_eq, rooted.email?_eq entry⟩⟩⟩
  · obtain ⟨place, led, found⟩ := Option.bind_eq_some_iff.mp found
    obtain ⟨bytes, held, read⟩ := Option.bind_eq_some_iff.mp found
    exact ⟨bytes, place?_eq_home led ▸ held, read⟩
  · rw [home_of_descending folder relative descending]
    exact List.prefix_append _ _
  · rw [disregards_iff opened.held, opened.opens_iff, home_of_entry folder entry,
      home_of_entry folder entry']
    rintro ⟨-, same⟩
    exact differ (List.append_singleton_inj.mp same).2.symm

/-- Accounts of two users, and a file below one of them that was not meant for an account. -/
def uploads : AccountFolder where
  files := [(["srv", "accounts", "carol", fileName], Text.utf8Bytes "carol@example.com\n"),
    (["srv", "accounts", "dave", fileName], Text.utf8Bytes " dave@example.com \r\nsince May\n"),
    (["srv", "accounts", "carol", "uploads", fileName], Text.utf8Bytes "mallory@example.com\n")]
  root := ["srv", "accounts"]

/-- Dave has the address in his own account, whatever comes into that of Carol; but it is the
account of `./dave` as well. -/
theorem email_from_home_uploads :
    uploads.Rooted ∧ IsEntryName "dave" ∧ IsEntryName "carol" ∧ uploads.Fits "dave" ∧
      uploads.email? "dave" = some "dave@example.com" ∧
      uploads.Opens "carol" ["srv", "accounts", "carol", fileName] ∧
      uploads.Disregards "dave" ["srv", "accounts", "carol", fileName] ∧
      uploads.Opens "./dave" ["srv", "accounts", "dave", fileName] ∧
      ¬uploads.Disregards "dave" ["srv", "accounts", "dave", fileName] := by
  have rooted : uploads.Rooted := by decide
  have dave : IsEntryName "dave" := by decide
  have carol : IsEntryName "carol" := by decide
  have fits : uploads.Fits "dave" := by decide +kernel
  have hers : uploads.Opens "carol" ["srv", "accounts", "carol", fileName] := by decide +kernel
  have his : uploads.Opens "./dave" ["srv", "accounts", "dave", fileName] := by decide +kernel
  obtain ⟨-, -, shared, own⟩ := uploads.email_from_home "dave"
  obtain ⟨-, apart, address⟩ := own dave
  refine ⟨rooted, dave, carol, fits, ?_, hers, apart _ _ carol (by decide) hers, his, ?_⟩
  · exact ((address rooted).2 fits).trans (by decide +kernel)
  · rw [(shared _ _ his).1, not_not]
    decide +kernel

/-- Different names need not open different accounts, and an account need not be in a folder right
among all accounts. -/
theorem not_email_from_own_file :
    (¬∀ (folder : AccountFolder) (user other : String) (place : Path), folder.Rooted →
        user ≠ other → folder.Opens other place → folder.Disregards user place) ∧
      ¬∀ (folder : AccountFolder) (user email : String), folder.Rooted →
        folder.email? user = some email →
          ∃ entry, folder.Opens user (folder.root ++ [entry, fileName]) := by
  have rooted : uploads.Rooted := by decide
  constructor
  · intro always
    have hers : uploads.Opens "carol" ["srv", "accounts", "carol", fileName] := by decide +kernel
    have disregards := always uploads "carol/" "carol" _ rooted (by decide) hers
    exact (disregards_iff hers.held).mp disregards (by decide +kernel)
  · intro always
    obtain ⟨entry, opens⟩ := always uploads "carol/uploads" "mallory@example.com" rooted
      (by decide +kernel)
    have below : uploads.place? "carol/uploads" =
        some ["srv", "accounts", "carol", "uploads", fileName] := by decide +kernel
    have lengths := congrArg List.length (Option.some.inj (opens.led.symm.trans below))
    simp [uploads] at lengths

end AccountFolder

end AuctionHouse
