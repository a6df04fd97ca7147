/-
What a client makes of the texts that set or remove a cookie.

A client cuts such a text at its semicolons. The first piece is the name
and the value of the cookie, and each of the others is an attribute,
with a value of its own or without (`Instruction.read?`). The client
keeps one value for each name and path (`Kept`), and an age of zero
takes the value away. So a removal finds the cookie that it is meant for
only if it says the same name and the same path as the text that set it,
and nothing that would make it another cookie. Both texts do
(`read?_settingText`, `read?_removalText`).
-/
import Mathlib.Logic.Function.Basic
import StatelessAuth.Proofs.Http.CookieHeader
import StatelessAuth.Proofs.Text.Digits

namespace StatelessAuth.Cookie

open Text

-- ========================================================= instructions

/-- What a text tells the client to keep. -/
structure Instruction where
  name : String
  value : String
  /-- The attributes in order, each with its value if it has one. -/
  attributes : List (String × Option String)
  deriving DecidableEq

namespace Instruction

/-- The attribute of a piece. -/
def property (piece : List Char) : String × Option String :=
  match cutFirst '=' piece with
  | (name, value) =>
      (String.ofList (trimChars isBlank name),
        value.map fun value => String.ofList (trimChars isBlank value))

def read? (text : String) : Option Instruction :=
  match split ';' text.toList with
  | [] => none
  | piece :: attributes =>
      (pair? piece).map fun (name, value) =>
        ⟨String.ofList name, String.ofList value, attributes.map property⟩

/-- The value of an attribute, if the attribute is there. -/
def attribute? (instruction : Instruction) (name : String) :
    Option (Option String) :=
  instruction.attributes.lookup name

/-- The instruction is about the cookie of this name that a client keeps
for all paths of one host, for requests that come from its own pages,
and out of reach of their scripts. -/
structure Addresses (name : String) (instruction : Instruction) : Prop where
  name : instruction.name = name
  path : instruction.attribute? "Path" = some (some "/")
  httpOnly : instruction.attribute? "HttpOnly" = some none
  sameSite : instruction.attribute? "SameSite" = some (some "lax")
  domain : instruction.attribute? "Domain" = none
  secure : instruction.attribute? "Secure" = none

/-- The cookie has this value from now on. -/
structure Sets (value : String) (instruction : Instruction) : Prop where
  value : instruction.value = value
  maxAge : instruction.attribute? "Max-Age" = none
  expires : instruction.attribute? "expires" = none

/-- The cookie has no value from now on. -/
structure Removes (instruction : Instruction) : Prop where
  value : instruction.value = ""
  maxAge : instruction.attribute? "Max-Age" = some (some "0")

end Instruction

/-- The values that a client keeps, by name and path. -/
abbrev Kept := String × Option (Option String) → Option String

/-- What a client keeps after a text. One that it cannot read changes
nothing. -/
def Kept.obey (kept : Kept) (text : String) : Kept :=
  match Instruction.read? text with
  | none => kept
  | some instruction =>
      Function.update kept (instruction.name, instruction.attribute? "Path")
        (if instruction.attribute? "Max-Age" = some (some "0") then none
          else some instruction.value)

-- =============================================================== pieces

variable {name value : String} {now : Instant}

/-- No piece of a date holds a semicolon. -/
theorem semicolon_not_mem_dateText (now : Instant) :
    ';' ∉ (dateText now).toList := by
  have hword : ∀ (words : List String) (index : Nat),
      (∀ word ∈ words, ';' ∉ word.toList) →
      ';' ∉ ((words[index]?).getD "").toList := by
    intro words index hwords
    rcases hfound : words[index]? with - | word
    · simp
    · exact hwords word (List.mem_of_getElem? hfound)
  have hdigits : ∀ {text : List Char},
      (∀ c ∈ text, isDigit c = true) → ';' ∉ text := by
    intro text htext hmem
    exact absurd (htext _ hmem) (by decide)
  have hpadded : ∀ width number, ';' ∉ padded width number :=
    fun _ _ => hdigits isDigit_of_mem_padded
  -- a year below 1000 has blanks in front, not zeros
  have hyear : ∀ number, ';' ∉ inFour number := by
    intro number hmem
    rcases List.mem_append.1 hmem with hmem | hmem
    · exact absurd (List.eq_of_mem_replicate hmem) (by decide)
    · exact hdigits isDigit_of_mem_decimal hmem
  have hweekday := hword weekdays
    ((LocalTime.ofInstant now).date.day % 7) (by decide)
  have hmonth := hword months
    ((LocalTime.ofInstant now).date.month - 1) (by decide)
  simp only [dateText, String.toList_append, String.toList_ofList,
    List.mem_append, List.mem_cons, not_or]
  simp [hweekday, hmonth, hpadded, hyear]

-- ============================================================= readings

/-- A name with a value, and attributes behind it, are read as they are. -/
theorem read?_of_pieces {pair : List Char} {attributes : List (List Char)}
    {text : String} {front back : List Char}
    (htext : text.toList = join ';' (pair :: attributes))
    (hpieces : ∀ piece ∈ pair :: attributes, ';' ∉ piece)
    (hpair : pair? pair = some (front, back)) :
    Instruction.read? text
      = some ⟨String.ofList front, String.ofList back,
          attributes.map Instruction.property⟩ := by
  rw [Instruction.read?, htext, split_join (List.cons_ne_nil _ _) hpieces]
  simp only [hpair, Option.map_some]

/-- A text that sets a cookie is read as its name and its value, for all
paths and out of reach of scripts. -/
theorem read?_settingText (hname : isSendable name = true) (hne : value ≠ "")
    (hvalue : value.toList.all isTokenChar = true) :
    Instruction.read? (settingText name value)
      = some ⟨name, value,
          [("HttpOnly", none), ("Path", some "/"),
            ("SameSite", some "lax")]⟩ := by
  obtain ⟨-, hplain⟩ := of_isSendable hname
  have htext : (settingText name value).toList
      = join ';' [name.toList ++ '=' :: value.toList, " HttpOnly".toList,
          " Path=/".toList, " SameSite=lax".toList] := by
    rw [settingText, quoted_of_all hne hvalue]
    simp [String.toList_append, join]
  have hpieces : ∀ piece ∈ [name.toList ++ '=' :: value.toList,
      " HttpOnly".toList, " Path=/".toList, " SameSite=lax".toList],
      ';' ∉ piece := by
    refine List.forall_mem_cons.2 ⟨?_, by decide⟩
    simp only [List.mem_append, List.mem_cons, not_or]
    exact ⟨not_mem_of_all (by decide) hplain, by decide,
      not_mem_of_all (by decide) hvalue⟩
  have hpair : IsPair name value (name.toList ++ '=' :: value.toList) :=
    ⟨[], [], List.forall_mem_nil _, List.forall_mem_nil _, by simp⟩
  have hproperties :
      [" HttpOnly".toList, " Path=/".toList, " SameSite=lax".toList].map
          Instruction.property
        = [("HttpOnly", none), ("Path", some "/"),
            ("SameSite", some "lax")] := by
    decide
  rw [read?_of_pieces htext hpieces (hpair.pair?_eq hname hvalue), hproperties,
    String.ofList_toList, String.ofList_toList]

/-- A text that removes a cookie is read with the same name and the same
path, an age of zero and a date besides. -/
theorem read?_removalText (hname : isSendable name = true) (now : Instant) :
    Instruction.read? (removalText name now)
      = some ⟨name, "", [("expires", some (trim isBlank (dateText now))),
          ("HttpOnly", none), ("Max-Age", some "0"), ("Path", some "/"),
          ("SameSite", some "lax")]⟩ := by
  obtain ⟨-, hplain⟩ := of_isSendable hname
  have htext : (removalText name now).toList
      = join ';' [name.toList ++ '=' :: ['"', '"'],
          " expires=".toList ++ (dateText now).toList, " HttpOnly".toList,
          " Max-Age=0".toList, " Path=/".toList, " SameSite=lax".toList] := by
    rw [removalText]
    simp [String.toList_append, quoted, join]
  have hpieces : ∀ piece ∈ [name.toList ++ '=' :: ['"', '"'],
      " expires=".toList ++ (dateText now).toList, " HttpOnly".toList,
      " Max-Age=0".toList, " Path=/".toList,
      " SameSite=lax".toList], ';' ∉ piece := by
    refine List.forall_mem_cons.2 ⟨?_, List.forall_mem_cons.2 ⟨?_, by decide⟩⟩
    · simp only [List.mem_append, not_or]
      exact ⟨not_mem_of_all (by decide) hplain, by decide⟩
    · simp only [List.mem_append, not_or]
      exact ⟨by decide, semicolon_not_mem_dateText now⟩
  have hpair : pair? (name.toList ++ '=' :: ['"', '"'])
      = some (name.toList, []) := by
    -- the value is written as two quotes, and there is nothing between
    -- them
    have hempty : unquoted (trimChars isBlank ['"', '"']) = [] := by
      have htrim : trimChars isBlank ['"', '"'] = ['"', '"'] := by decide
      rw [htrim]
      simp [unquoted, unescape]
    have hnone : ∀ c ∈ ([] : List Char), isBlank c = true :=
      List.forall_mem_nil _
    have hblanks := pair?_of_blanks hname hnone hnone ['"', '"']
    rwa [hempty] at hblanks
  have hexpires : Instruction.property
      (" expires=".toList ++ (dateText now).toList)
      = ("expires", some (trim isBlank (dateText now))) := by
    have hcut : " expires=".toList ++ (dateText now).toList
        = " expires".toList ++ '=' :: (dateText now).toList := by simp
    have hname : trimChars isBlank " expires".toList = "expires".toList := by
      decide
    rw [hcut, Instruction.property, cutFirst_append_cons (by decide)]
    simp only [hname, String.ofList_toList, Option.map_some]
    rfl
  have hproperties :
      [" HttpOnly".toList, " Max-Age=0".toList, " Path=/".toList,
          " SameSite=lax".toList].map Instruction.property
        = [("HttpOnly", none), ("Max-Age", some "0"), ("Path", some "/"),
            ("SameSite", some "lax")] := by
    decide
  rw [read?_of_pieces htext hpieces hpair, List.map_cons, hexpires, hproperties,
    String.ofList_toList]

-- ============================================================== clients

/-- The place where a client keeps the cookie that all these texts are about. -/
def place (name : String) : String × Option (Option String) :=
  (name, some (some "/"))

variable {instruction : Instruction} {text : String}

/-- A client that is told a value keeps it for the cookie, and whatever
else it keeps stays. -/
theorem Kept.obey_of_sets (kept : Kept)
    (hread : Instruction.read? text = some instruction)
    (haddresses : instruction.Addresses name)
    (hsets : instruction.Sets value) :
    kept.obey text = Function.update kept (place name) (some value) := by
  unfold obey
  rw [hread]
  simp only [haddresses.name, haddresses.path, hsets.value, hsets.maxAge]
  rfl

/-- A client that is told to remove the cookie keeps no value for it,
and whatever else it keeps stays. -/
theorem Kept.obey_of_removes (kept : Kept)
    (hread : Instruction.read? text = some instruction)
    (haddresses : instruction.Addresses name)
    (hremoves : instruction.Removes) :
    kept.obey text = Function.update kept (place name) none := by
  unfold obey
  rw [hread]
  simp only [haddresses.name, haddresses.path, hremoves.maxAge, if_true]
  rfl

theorem exists_sets_of_settingText (hname : isSendable name = true)
    (hne : value ≠ "") (hvalue : value.toList.all isTokenChar = true) :
    ∃ instruction,
      Instruction.read? (settingText name value) = some instruction
        ∧ instruction.Addresses name ∧ instruction.Sets value :=
  ⟨_, read?_settingText hname hne hvalue, ⟨rfl, rfl, rfl, rfl, rfl, rfl⟩,
    ⟨rfl, rfl, rfl⟩⟩

theorem exists_removes_of_removalText (hname : isSendable name = true)
    (now : Instant) :
    ∃ instruction,
      Instruction.read? (removalText name now) = some instruction
        ∧ instruction.Addresses name ∧ instruction.Removes :=
  ⟨_, read?_removalText hname now, ⟨rfl, rfl, rfl, rfl, rfl, rfl⟩, ⟨rfl, rfl⟩⟩

end StatelessAuth.Cookie
