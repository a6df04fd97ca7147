/-
The text of a token and the token of a text: a text is read as a token
exactly if it is the text of it, and the token has an identity, an
expiration and a signature, the last without a point (`ofText_eq_ok_iff`).
So a token has one text, and a text at most one token.

# What is refused

A text is judged by its form before anything in it is read. The form is
that of a text made of three pieces (`IsCut`), which is said here without
the cutting at points that the reader does. A text that is not so made is
refused for that, whatever its pieces hold, and of a text that is, the
first piece that spells no text is the reason (`text_codec_exact`).
-/
import StatelessAuth.Proofs.Base64url.Codec
import StatelessAuth.Proofs.Text.Split
import StatelessAuth.Token

namespace StatelessAuth

/-- Only the empty text has an empty spelling. -/
theorem Base64url.encodeText_eq_empty_iff {text : String} :
    encodeText text = "" ↔ text = "" := by
  constructor
  · intro h
    exact encodeText_injective (h.trans rfl)
  · intro h
    subst h
    rfl

namespace Token

/-- The text of a token has its two spellings and its signature, with a
point behind each of the first two. -/
theorem toList_toText (token : Token) :
    token.toText.toList = Base64url.encodeChars (Utf8.encode token.identity)
      ++ '.' :: (Base64url.encodeChars (Utf8.encode token.expiration)
        ++ '.' :: token.signature.toList) := by
  unfold toText
  simp [String.toList_append]

/-- Two tokens have two texts. No spelling has a point in it, so that the
first two points of the text are those between the parts. -/
theorem toText_injective {token other : Token}
    (h : token.toText = other.toText) : token = other := by
  have hchars := congrArg String.toList h
  rw [toList_toText, toList_toText] at hchars
  obtain ⟨hidentity, hexpiration, hsignature⟩ :=
    Text.append_cons_append_cons_inj (Base64url.dot_not_mem_encodeChars _)
      (Base64url.dot_not_mem_encodeChars _)
      (Base64url.dot_not_mem_encodeChars _)
      (Base64url.dot_not_mem_encodeChars _) hchars
  cases token
  cases other
  simp only [mk.injEq]
  exact ⟨Utf8.encode_injective (Base64url.encodeChars_injective hidentity),
    Utf8.encode_injective (Base64url.encodeChars_injective hexpiration),
    String.toList_injective hsignature⟩

/-- The pieces that are read are the spellings of what is read. -/
theorem ofPieces_eq_ok_iff {identity expiration signature : String}
    {token : Token} :
    ofPieces identity expiration signature = .ok token
      ↔ identity = Base64url.encodeText token.identity
        ∧ expiration = Base64url.encodeText token.expiration
        ∧ signature = token.signature := by
  unfold ofPieces
  constructor
  · intro h
    split at h
    case h_1 => cases h
    case h_2 name hname =>
      split at h
      case h_1 => cases h
      case h_2 deadline hdeadline =>
        cases h
        exact ⟨Base64url.decodeText_eq_ok_iff.1 hname,
          Base64url.decodeText_eq_ok_iff.1 hdeadline, rfl⟩
  · intro h
    obtain ⟨rfl, rfl, rfl⟩ := h
    rw [Base64url.decodeText_encodeText, Base64url.decodeText_encodeText]

/-- The first piece is read first, whatever the others hold. -/
theorem ofPieces_of_identity {identity : String} {e : Base64url.DecodeError}
    (h : Base64url.decodeText identity = .error e)
    (expiration signature : String) :
    ofPieces identity expiration signature = .error .identityUndecodable := by
  rw [ofPieces, h]

/-- The second piece is read once the first has a name in it. -/
theorem ofPieces_of_expiration {identity expiration name : String}
    {e : Base64url.DecodeError} (h : Base64url.decodeText identity = .ok name)
    (h' : Base64url.decodeText expiration = .error e) (signature : String) :
    ofPieces identity expiration signature = .error .expirationUndecodable := by
  rw [ofPieces, h]
  simp only
  rw [h']

-- ============================================================== pieces

/-- A text is made of three pieces with points between them: none is empty,
and no point is in any. -/
structure IsCut (text first second third : String) : Prop where
  joined : text = first ++ "." ++ second ++ "." ++ third
  nonempty : first ≠ "" ∧ second ≠ "" ∧ third ≠ ""
  whole : '.' ∉ first.toList ∧ '.' ∉ second.toList ∧ '.' ∉ third.toList

/-- The points stand between the pieces. -/
theorem IsCut.toList_eq {text first second third : String}
    (h : IsCut text first second third) :
    text.toList = first.toList
      ++ '.' :: (second.toList ++ '.' :: third.toList) := by
  rw [h.joined]
  simp [String.toList_append]

/-- Such a text is split into its pieces. -/
theorem IsCut.split_eq {text first second third : String}
    (h : IsCut text first second third) :
    Text.split '.' text.toList
      = [first.toList, second.toList, third.toList] := by
  obtain ⟨hfirst, hsecond, hthird⟩ := h.whole
  rw [h.toList_eq, Text.split_append_cons hfirst,
    Text.split_append_cons hsecond, Text.split_of_not_mem hthird]

/-- A text that is split into three pieces with something in each is
made of them. -/
theorem isCut_of_split {text : String} {first second third : List Char}
    (h : Text.split '.' text.toList = [first, second, third])
    (hfirst : first ≠ []) (hsecond : second ≠ []) (hthird : third ≠ []) :
    IsCut text (String.ofList first) (String.ofList second)
      (String.ofList third) := by
  -- what is split at points has no point left in it
  have hwhole : ∀ piece ∈ [first, second, third], '.' ∉ piece := by
    intro piece hpiece
    rw [← h] at hpiece
    exact Text.not_mem_of_mem_split hpiece
  refine ⟨?_, by simp [hfirst, hsecond, hthird], ?_⟩
  · have hjoin := Text.join_split '.' text.toList
    rw [h] at hjoin
    apply String.toList_injective
    rw [← hjoin]
    simp [Text.join, String.toList_append]
  · simp only [String.toList_ofList]
    exact ⟨hwhole first (by simp), hwhole second (by simp),
      hwhole third (by simp)⟩

/-- Of a text that is so made the pieces are read. -/
theorem ofText_of_isCut {text first second third : String}
    (h : IsCut text first second third) :
    ofText text = ofPieces first second third := by
  unfold ofText
  rw [h.split_eq]
  simp only [String.toList_eq_nil_iff, String.ofList_toList]
  rw [if_neg]
  rw [not_or, not_or]
  exact h.nonempty

/-- A text that is not made of three such pieces is refused for its form,
whatever its pieces hold. -/
theorem ofText_of_not_isCut {text : String}
    (h : ¬ ∃ first second third, IsCut text first second third) :
    ofText text = .error .formatInvalid := by
  unfold ofText
  split
  case h_2 => rfl
  case h_1 first second third hsplit =>
    split
    case isTrue => rfl
    case isFalse hne =>
      rw [not_or, not_or] at hne
      obtain ⟨hfirst, hsecond, hthird⟩ := hne
      exact absurd ⟨_, _, _, isCut_of_split hsplit hfirst hsecond hthird⟩ h

/-- The text of a token with nothing empty is made of its parts. -/
theorem isCut_toText {token : Token} (hidentity : token.identity ≠ "")
    (hexpiration : token.expiration ≠ "") (hsignature : token.signature ≠ "")
    (hdot : '.' ∉ token.signature.toList) :
    IsCut token.toText (Base64url.encodeText token.identity)
      (Base64url.encodeText token.expiration) token.signature := by
  refine ⟨rfl, ⟨?_, ?_, hsignature⟩, ?_, ?_, hdot⟩
  · rwa [ne_eq, Base64url.encodeText_eq_empty_iff]
  · rwa [ne_eq, Base64url.encodeText_eq_empty_iff]
  · rw [Base64url.toList_encodeText]
    exact Base64url.dot_not_mem_encodeChars _
  · rw [Base64url.toList_encodeText]
    exact Base64url.dot_not_mem_encodeChars _

-- ============================================================= reading

/-- The tokens that are read, and the texts of them. -/
theorem ofText_eq_ok_iff {text : String} {token : Token} :
    ofText text = .ok token
      ↔ text = token.toText ∧ token.identity ≠ "" ∧ token.expiration ≠ ""
        ∧ token.signature ≠ "" ∧ '.' ∉ token.signature.toList := by
  constructor
  · intro h
    by_cases hcut : ∃ first second third, IsCut text first second third
    · obtain ⟨first, second, third, hcut⟩ := hcut
      rw [ofText_of_isCut hcut] at h
      obtain ⟨rfl, rfl, rfl⟩ := ofPieces_eq_ok_iff.1 h
      obtain ⟨hidentity, hexpiration, hsignature⟩ := hcut.nonempty
      rw [ne_eq, Base64url.encodeText_eq_empty_iff] at hidentity hexpiration
      exact ⟨hcut.joined, hidentity, hexpiration, hsignature, hcut.whole.2.2⟩
    · rw [ofText_of_not_isCut hcut] at h
      cases h
  · intro h
    obtain ⟨rfl, hidentity, hexpiration, hsignature, hdot⟩ := h
    rw [ofText_of_isCut (isCut_toText hidentity hexpiration hsignature hdot)]
    exact ofPieces_eq_ok_iff.2 ⟨rfl, rfl, rfl⟩

theorem ofText_toText {token : Token} (hidentity : token.identity ≠ "")
    (hexpiration : token.expiration ≠ "") (hsignature : token.signature ≠ "")
    (hdot : '.' ∉ token.signature.toList) : ofText token.toText = .ok token :=
  ofText_eq_ok_iff.2 ⟨rfl, hidentity, hexpiration, hsignature, hdot⟩

/-- A token with an empty part, or with a point in its signature, has a text,
but this is not made of three pieces. -/
theorem not_isCut_toText {token : Token}
    (h : ¬ (token.identity ≠ "" ∧ token.expiration ≠ "" ∧ token.signature ≠ ""
      ∧ '.' ∉ token.signature.toList)) :
    ¬ ∃ first second third, IsCut token.toText first second third := by
  intro hcut
  obtain ⟨first, second, third, hcut⟩ := hcut
  obtain ⟨hwhole, hwhole', hdot⟩ := hcut.whole
  have hchars := toList_toText token
  rw [hcut.toList_eq] at hchars
  -- the first two points are those of the cut, so that the pieces are the parts
  obtain ⟨hfirst, hsecond, hthird⟩ := Text.append_cons_append_cons_inj hwhole
    (Base64url.dot_not_mem_encodeChars _) hwhole'
    (Base64url.dot_not_mem_encodeChars _) hchars
  rw [← Base64url.toList_encodeText] at hfirst hsecond
  obtain ⟨hidentity, hexpiration, hsignature⟩ := hcut.nonempty
  rw [String.toList_injective hfirst, ne_eq,
    Base64url.encodeText_eq_empty_iff] at hidentity
  rw [String.toList_injective hsecond, ne_eq,
    Base64url.encodeText_eq_empty_iff] at hexpiration
  rw [String.toList_injective hthird] at hsignature
  rw [hthird] at hdot
  exact h ⟨hidentity, hexpiration, hsignature, hdot⟩

-- =========================================================== all texts

/-- Texts and tokens. A token is read back from its text exactly if it has an
identity, an expiration and a signature, the last without a point; else its
text is refused for its form. A text that is read is the text of what is read.
And of every text it is told what comes of it: its form decides first, then
its first piece, then its second. -/
theorem text_codec_exact :
    (∀ token : Token, ofText token.toText
      = if token.identity ≠ "" ∧ token.expiration ≠ "" ∧ token.signature ≠ ""
          ∧ '.' ∉ token.signature.toList then .ok token
        else .error .formatInvalid)
    ∧ (∀ text token, ofText text = .ok token → token.toText = text)
    ∧ ∀ text,
        ((¬ ∃ first second third, IsCut text first second third) →
          ofText text = .error .formatInvalid)
        ∧ ∀ first second third, IsCut text first second third →
            (∀ e, Base64url.decodeText first = .error e →
              ofText text = .error .identityUndecodable)
            ∧ ∀ name, Base64url.decodeText first = .ok name →
                (∀ e, Base64url.decodeText second = .error e →
                  ofText text = .error .expirationUndecodable)
                ∧ ∀ deadline, Base64url.decodeText second = .ok deadline →
                  ofText text = .ok ⟨name, deadline, third⟩ := by
  refine ⟨?token, ?text, ?outcome⟩
  case token =>
    intro token
    split
    case isTrue h =>
      obtain ⟨hidentity, hexpiration, hsignature, hdot⟩ := h
      exact ofText_toText hidentity hexpiration hsignature hdot
    case isFalse h => exact ofText_of_not_isCut (not_isCut_toText h)
  case text =>
    intro text token h
    exact (ofText_eq_ok_iff.1 h).1.symm
  case outcome =>
    intro text
    refine ⟨ofText_of_not_isCut, ?_⟩
    intro first second third hcut
    rw [ofText_of_isCut hcut]
    refine ⟨fun e hfirst => ofPieces_of_identity hfirst second third, ?_⟩
    intro name hfirst
    refine ⟨fun e hsecond => ofPieces_of_expiration hfirst hsecond third, ?_⟩
    intro deadline hsecond
    exact ofPieces_eq_ok_iff.2 ⟨Base64url.decodeText_eq_ok_iff.1 hfirst,
      Base64url.decodeText_eq_ok_iff.1 hsecond, rfl⟩

end Token

end StatelessAuth
