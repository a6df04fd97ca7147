/-
What is read in the cookies that a client sends back. Headers are made of
pieces with semicolons between them (`ConsistOf`). A piece that is a plain name,
an equals sign and a plain value is read as the two, blanks around it passed
over (`IsPair.pair?_eq`), and the pieces that are read as cookies of a name are
those with this name in front of an equals sign (`isNamed_iff`). So a cookie
is found among any others, as long as none behind it has its name
(`cookie?_of_carries`).
-/
import StatelessAuth.Http.Request
import StatelessAuth.Proofs.Http.Cookie
import StatelessAuth.Proofs.Text.Blank

namespace StatelessAuth

open Text

namespace Cookie

-- ============================================================ vocabulary

/-- The headers are made of these pieces, with semicolons between them. -/
def ConsistOf (headers pieces : List (List Char)) : Prop :=
  ∃ groups : List (List (List Char)), headers = groups.map (join ';')
    ∧ pieces = groups.flatten
    ∧ ∀ group ∈ groups, group ≠ [] ∧ ∀ piece ∈ group, ';' ∉ piece

/-- The piece is a name and a value, with or without blanks around them. -/
def IsPair (name value : String) (piece : List Char) : Prop :=
  ∃ left right, (∀ c ∈ left, isBlank c = true) ∧ (∀ c ∈ right, isBlank c = true)
    ∧ piece = left ++ (name.toList ++ '=' :: (value.toList ++ right))

/-- The piece gives some value to a name, on whose sides there may be blanks. -/
def IsNamed (name : String) (piece : List Char) : Prop :=
  ∃ left right value, (∀ c ∈ left, isBlank c = true)
    ∧ (∀ c ∈ right, isBlank c = true)
    ∧ piece = left ++ (name.toList ++ (right ++ '=' :: value))

end Cookie

/-- One of the cookies of the request is this name with this value. Any others
may come before it, and behind it any of other names. -/
def Request.Carries (request : Request) (name value : String) : Prop :=
  ∃ before piece after,
    Cookie.ConsistOf (request.header "cookie") (before ++ piece :: after)
    ∧ Cookie.IsPair name value piece
      ∧ ∀ other ∈ after, ¬ Cookie.IsNamed name other

namespace Cookie

variable {name value : String} {headers pieces : List (List Char)}
  {piece : List Char}

-- ================================================================ pieces

/-- Cut at their semicolons, the headers fall into their pieces. -/
theorem ConsistOf.flatMap_split (h : ConsistOf headers pieces) :
    headers.flatMap (split ';') = pieces := by
  obtain ⟨groups, rfl, rfl, hgroups⟩ := h
  have hsame : ∀ group ∈ groups, split ';' (join ';' group) = id group :=
    fun group hgroup =>
      split_join (hgroups group hgroup).1 (hgroups group hgroup).2
  rw [List.flatMap_map, List.flatMap_def, List.map_congr_left hsame,
    List.map_id]

theorem unquoted_of_all {text : List Char} (h : text.all isTokenChar = true) :
    unquoted text = text := by
  unfold unquoted
  split
  case h_1 c rest =>
    simp only [List.all_cons, Bool.and_eq_true] at h
    exact absurd h.1 (by decide)
  case h_2 => rfl

theorem trimChars_plain {left text right : List Char}
    (hleft : ∀ c ∈ left, isBlank c = true) (h : text.all isTokenChar = true)
    (hright : ∀ c ∈ right, isBlank c = true) :
    trimChars isBlank (left ++ (text ++ right)) = text :=
  trimChars_append hleft
    (fun c hc => isBlank_of_isTokenChar (List.all_eq_true.1 h c hc)) hright

/-- Blanks around a plain name are passed over, and so are those around
the value. -/
theorem pair?_of_blanks {left right : List Char}
    (hname : isSendable name = true) (hleft : ∀ c ∈ left, isBlank c = true)
    (hright : ∀ c ∈ right, isBlank c = true) (text : List Char) :
    pair? (left ++ (name.toList ++ (right ++ '=' :: text)))
      = some (name.toList, unquoted (trimChars isBlank text)) := by
  obtain ⟨hne, hplain⟩ := of_isSendable hname
  have hequals : isBlank '=' = false := by decide
  -- the cut is at the first equals sign, and this is the one behind the
  -- name
  have hfront : '=' ∉ left ++ (name.toList ++ right) := by
    simp only [List.mem_append, not_or]
    refine ⟨?_, not_mem_of_all (by decide) hplain, ?_⟩
    · exact fun hmem => absurd (hleft _ hmem) (by simp [hequals])
    · exact fun hmem => absurd (hright _ hmem) (by simp [hequals])
  have hcut : left ++ (name.toList ++ (right ++ '=' :: text))
      = (left ++ (name.toList ++ right)) ++ '=' :: text := by simp
  rw [pair?, hcut, cutFirst_append_cons hfront]
  simp only
  rw [trimChars_plain hleft hplain hright,
    if_neg fun h => hne (String.toList_eq_nil_iff.1 h.1)]

/-- A plain name with a plain value is read as the two. -/
theorem IsPair.pair?_eq (h : IsPair name value piece)
    (hname : isSendable name = true)
    (hvalue : value.toList.all isTokenChar = true) :
    pair? piece = some (name.toList, value.toList) := by
  obtain ⟨left, right, hleft, hright, rfl⟩ := h
  have hnone : ∀ c ∈ ([] : List Char), isBlank c = true := List.forall_mem_nil _
  have htrim : trimChars isBlank (value.toList ++ right) = value.toList :=
    trimChars_plain hnone hvalue hright
  have hpair := pair?_of_blanks hname hleft hnone (value.toList ++ right)
  rwa [List.nil_append, htrim, unquoted_of_all hvalue] at hpair

/-- A piece that is read as a cookie of a name has the name in front of
an equals sign. -/
theorem isNamed_of_pair? {text : List Char} (hne : name ≠ "")
    (h : pair? piece = some (name.toList, text)) : IsNamed name piece := by
  unfold pair? at h
  rcases hcut : cutFirst '=' piece with ⟨front, _ | back⟩
  · -- a piece without an equals sign has no name
    rw [hcut] at h
    simp only at h
    split at h
    · cases h
    · injection h with h
      injection h with hname
      exact absurd (String.toList_eq_nil_iff.1 hname.symm) hne
  · rw [hcut] at h
    simp only at h
    split at h
    · cases h
    · injection h with h
      injection h with hname
      obtain ⟨left, right, hleft, hright, hfront⟩ :=
        exists_trimChars isBlank front
      refine ⟨left, right, back, hleft, hright, ?_⟩
      rw [eq_of_cutFirst hcut, hfront, hname]
      simp

/-- The pieces of a name are those that are read as cookies of it. -/
theorem isNamed_iff (hname : isSendable name = true) :
    IsNamed name piece ↔ ∃ text, pair? piece = some (name.toList, text) := by
  constructor
  · intro h
    obtain ⟨left, right, text, hleft, hright, rfl⟩ := h
    exact ⟨_, pair?_of_blanks hname hleft hright text⟩
  · intro h
    obtain ⟨text, h⟩ := h
    exact isNamed_of_pair? (of_isSendable hname).1 h

-- =============================================================== headers

/-- The last cookie of a name is the one that is found. -/
theorem find?_of_consistOf {before after : List (List Char)}
    {text : List Char} (hne : name ≠ "")
    (h : ConsistOf headers (before ++ piece :: after))
    (hpair : pair? piece = some (name.toList, text))
    (hafter : ∀ other ∈ after, ¬ IsNamed name other) :
    find? headers name = some (String.ofList text) := by
  have hpairs : headers.flatMap pairs
      = before.filterMap pair?
        ++ (name.toList, text) :: after.filterMap pair? := by
    have := congrArg (List.filterMap pair?) h.flatMap_split
    rwa [List.filterMap_flatMap, List.filterMap_append,
      List.filterMap_cons_some hpair] at this
  -- the last one wins: from the back, no piece is of this name until
  -- the one that is meant
  rw [find?, hpairs, List.reverse_append, List.reverse_cons,
    List.append_assoc, List.find?_append, List.find?_eq_none.2 ?behind]
  case behind =>
    rintro ⟨otherName, otherText⟩ hmem hsame
    obtain ⟨other, hother, hread⟩ :=
      List.mem_filterMap.1 (List.mem_reverse.1 hmem)
    rw [of_decide_eq_true hsame] at hread
    exact hafter other hother (isNamed_of_pair? hne hread)
  simp

/-- A plain value is read back from a request that carries it. -/
theorem cookie?_of_carries {request : Request} (hname : isSendable name = true)
    (hvalue : value.toList.all isTokenChar = true)
    (h : request.Carries name value) :
    request.cookie? name = some value := by
  obtain ⟨before, piece, after, hheaders, hpiece, hafter⟩ := h
  have hfound := find?_of_consistOf (of_isSendable hname).1 hheaders
    (hpiece.pair?_eq hname hvalue) hafter
  rwa [String.ofList_toList] at hfound

-- =============================================================== arrival

/-- What is ASCII arrives as it was sent. -/
theorem received_of_ascii {text : String}
    (h : ∀ c ∈ text.toList, c.toNat < 128) :
    received (Utf8.encode text) = text.toList := by
  have hbyte : ∀ n < 128, (String.utf8EncodeChar (Char.ofNat n)).map
      (fun byte => Char.ofNat byte.toNat) = [Char.ofNat n] := by decide +kernel
  unfold received Utf8.encode
  generalize text.toList = chars at h ⊢
  induction chars with
  | nil => rfl
  | cons c rest ih =>
      have hc := hbyte c.toNat (h c (List.mem_cons_self ..))
      rw [Char.ofNat_toNat] at hc
      rw [List.flatMap_cons, List.map_append, hc,
        ih fun d hd => h d (List.mem_cons_of_mem c hd), List.singleton_append]

/-- A plain text arrives as it was sent. -/
theorem received_of_all {text : String}
    (h : text.toList.all isTokenChar = true) :
    received (Utf8.encode text) = text.toList :=
  received_of_ascii fun c hc => toNat_lt_of_isTokenChar
    (List.all_eq_true.1 h c hc)

theorem received_append (text other : String) :
    received (Utf8.encode (text ++ other))
      = received (Utf8.encode text) ++ received (Utf8.encode other) := by
  rw [received, Utf8.encode_append, List.map_append, received, received]

/-- A client that sends one header with the name and a plain value of a
cookie is understood. -/
theorem cookie?_of_header {request : Request} (hname : isSendable name = true)
    (hvalue : value.toList.all isTokenChar = true)
    (hheader : request.header "cookie"
      = [received (Utf8.encode (name ++ "=" ++ value))]) :
    request.cookie? name = some value := by
  obtain ⟨-, hplain⟩ := of_isSendable hname
  have harrives : received (Utf8.encode (name ++ "=" ++ value))
      = name.toList ++ '=' :: value.toList := by
    have hequals : received (Utf8.encode "=") = ['='] := by decide +kernel
    rw [received_append, received_append, received_of_all hplain,
      received_of_all hvalue, hequals, List.append_assoc, List.singleton_append]
  have hsemicolon : ';' ∉ name.toList ++ '=' :: value.toList := by
    simp only [List.mem_append, List.mem_cons, not_or]
    exact ⟨not_mem_of_all (by decide) hplain, by decide,
      not_mem_of_all (by decide) hvalue⟩
  refine cookie?_of_carries hname hvalue
    ⟨[], name.toList ++ '=' :: value.toList, [], ⟨[[_]], ?_, rfl, ?_⟩,
      ?_, by simp⟩
  · rw [hheader, harrives]
    rfl
  · simpa using hsemicolon
  · exact ⟨[], [], by simp, by simp, by simp⟩

end Cookie

end StatelessAuth
