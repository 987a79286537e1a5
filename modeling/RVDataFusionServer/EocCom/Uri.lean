import RVDataFusionServer.Library.Search

/-!
# URIs

`ast_uri_parse` (`uri.cpp`) looks for its separators in the whole text that is left, and not in the
part of it in which they have a meaning: an at sign in a path ends the user info, and a colon in a
query ends the host. `astUriParse_iff` says which URIs it takes apart into what they were made of.
-/

namespace RVDataFusionServer

open Library

namespace Uri

/-- `struct ast_uri`: the parts of a URI, `none` for a null pointer. -/
structure AstUri where
  scheme : Option (List UInt8) := none
  userInfo : Option (List UInt8) := none
  host : Option (List UInt8) := none
  port : Option (List UInt8) := none
  path : Option (List UInt8) := none
  query : Option (List UInt8) := none
  deriving DecidableEq, Repr

/-- `"://"`. -/
def afterScheme : List UInt8 := [0x3A, 0x2F, 0x2F]

/-- The separators of one character. -/
def atSign : UInt8 := 0x40
def colon : UInt8 := 0x3A
def slash : UInt8 := 0x2F
def questionMark : UInt8 := 0x3F

/-- The last segment and the query. -/
def cutQuery (uri : List UInt8) : List UInt8 × Option (List UInt8) :=
  match uri.dropInfix? [questionMark] with
  | some (segment, query) => (segment, some query)
  | none => (uri, none)

/-- `ast_uri_parse` behind the user info. The character in front of `uri` is the separator that was
found last. -/
def parseHost (res : AstUri) (uri : List UInt8) : AstUri :=
  let (host, uri) := detach [colon] uri
  let res := { res with host := host }
  let (part, uri) := detach [slash] uri
  let res :=
    if part.isSome then
      if res.host.isNone then { res with host := part } else { res with port := part }
    else res
  let last := if part.isSome then slash else colon
  let (segment, query) := cutQuery uri
  let res := { res with query := query }
  if res.host.isNone then { res with host := some segment }
  else if last = colon then { res with port := some segment }
  else if last = slash then { res with path := some segment }
  else res

/-- `ast_uri_parse`. -/
def astUriParse (uri : List UInt8) : AstUri :=
  let (scheme, uri) := detach afterScheme uri
  let (userInfo, uri) := detach [atSign] uri
  parseHost { scheme := scheme, userInfo := userInfo } uri

/-- A part, and behind it another one with its separator, or not. -/
def joined (sep : UInt8) (p : List UInt8) (next : Option (List UInt8)) (rest : List UInt8) :
    List UInt8 :=
  match next with
  | none => p ++ rest
  | some q => p ++ sep :: (q ++ rest)

/-- The separator in front of a next part is the first one, or there is none. -/
def Joint (sep : UInt8) (p : List UInt8) (next : Option (List UInt8)) (rest : List UInt8) : Prop :=
  match next with
  | none => sep ∉ p ++ rest
  | some _ => sep ∉ p

/-- What a URI is made of. -/
structure Parts where
  scheme : Option (List UInt8) := none
  userInfo : Option (List UInt8) := none
  host : List UInt8
  port : Option (List UInt8) := none
  path : Option (List UInt8) := none
  query : Option (List UInt8) := none
  deriving DecidableEq, Repr

namespace Parts

/-- The query with its question mark. -/
def queryText (c : Parts) : List UInt8 :=
  match c.query with
  | none => []
  | some query => questionMark :: query

/-- The path with its slash, and the query. -/
def pathText (c : Parts) : List UInt8 := joined slash [] c.path c.queryText

/-- The host and all that comes behind it. -/
def hostText (c : Parts) : List UInt8 := joined colon c.host c.port c.pathText

/-- All behind the scheme. -/
def userText (c : Parts) : List UInt8 := attach [atSign] c.userInfo c.hostText

/-- The text of a URI. -/
def text (c : Parts) : List UInt8 := attach afterScheme c.scheme c.userText

/-- What `ast_uri_parse` should find. -/
def uri (c : Parts) : AstUri where
  scheme := c.scheme
  userInfo := c.userInfo
  host := some c.host
  port := c.port
  path := c.path
  query := c.query

/-- What is in front of the path. -/
def front (c : Parts) : List UInt8 := c.port.getD c.host

/-- Every separator is found where it belongs, and one that is left out is nowhere behind. -/
structure Separable (c : Parts) : Prop where
  scheme : Clear afterScheme c.scheme c.userText
  userInfo : Clear [atSign] c.userInfo c.hostText
  port : Joint colon c.host c.port c.pathText
  path : Joint slash c.front c.path c.queryText
  query : questionMark ∉ c.path.getD c.front

end Parts

/-- A part that ends at its first separator of one character. -/
theorem detach_append_iff {sep : UInt8} (p rest : List UInt8) :
    detach [sep] (p ++ sep :: rest) = (some p, rest) ↔ sep ∉ p := by
  have h := detach_attach_iff (List.cons_ne_nil sep []) (some p) rest
  rw [attach, Clear, List.append_assoc, List.singleton_append] at h
  rw [h, List.dropLast_singleton, List.append_nil, List.singleton_infix_iff]

/-- A text without a separator of one character. -/
theorem detach_none_iff {sep : UInt8} (rest : List UInt8) :
    detach [sep] rest = (none, rest) ↔ sep ∉ rest := by
  have h := detach_attach_iff (List.cons_ne_nil sep []) none rest
  rw [attach, Clear] at h
  rw [h, List.singleton_infix_iff]

/-- A text ends at its first separator of one character, if there is one. -/
theorem detach_cases (sep : UInt8) (text : List UInt8) :
    detach [sep] text = (none, text) ∨ ∃ p rest, detach [sep] text = (some p, rest) := by
  unfold detach
  cases text.dropInfix? [sep] with
  | none => exact .inl rfl
  | some cut => exact .inr ⟨cut.1, cut.2, rfl⟩

/-- A part is found in front of the next one exactly if the separator of that is the first one. -/
theorem fst_detach_joined_iff (sep : UInt8) (p : List UInt8) (next : Option (List UInt8))
    (rest : List UInt8) :
    (detach [sep] (joined sep p next rest)).1 = next.map (fun _ => p) ↔ Joint sep p next rest := by
  cases next with
  | none =>
      have h := fst_detach_attach_iff (List.cons_ne_nil sep []) none (p ++ rest)
      rw [Clear, List.singleton_infix_iff] at h
      exact h
  | some q =>
      have h := fst_detach_attach_iff (List.cons_ne_nil sep []) (some p) (q ++ rest)
      rw [attach, Clear, List.append_assoc, List.singleton_append, List.dropLast_singleton,
        List.append_nil, List.singleton_infix_iff] at h
      exact h

/-- Then the rest is what is left. -/
theorem Joint.detach_eq {sep : UInt8} {p rest : List UInt8} {next : Option (List UInt8)}
    (h : Joint sep p next rest) :
    detach [sep] (joined sep p next rest) = (next.map (fun _ => p), next.getD p ++ rest) := by
  cases next with
  | none => exact (detach_none_iff _).mpr h
  | some q => exact (detach_append_iff p (q ++ rest)).mpr h

/-- The query is cut off behind a segment without a question mark. -/
theorem cutQuery_iff (c : Parts) (segment : List UInt8) :
    cutQuery (segment ++ c.queryText) = (segment, c.query) ↔ questionMark ∉ segment := by
  unfold Parts.queryText
  have hcut : ∀ text, cutQuery text = match detach [questionMark] text with
      | (none, _) => (text, none)
      | (some segment, query) => (segment, some query) := fun text => by
    unfold cutQuery detach
    cases text.dropInfix? [questionMark] <;> rfl
  rw [hcut]
  cases c.query with
  | none =>
      rw [List.append_nil, ← detach_none_iff]
      rcases detach_cases questionMark segment with hnone | ⟨p, rest, hsome⟩
      · simp [hnone]
      · simp [hsome]
  | some query =>
      rw [← detach_append_iff segment query]
      rcases detach_cases questionMark (segment ++ questionMark :: query) with
        hnone | ⟨p, rest, hsome⟩
      · simp [hnone]
      · simp [hsome]

/-- What `ast_uri_parse` makes of a host in front of a colon, a part in front of a slash, the last
segment and the query. -/
def assemble (res : AstUri) (host part : Option (List UInt8)) (segment : List UInt8)
    (query : Option (List UInt8)) : AstUri :=
  match host, part with
  | none, none => { res with host := some segment, query := query }
  | none, some part => { res with host := some part, path := some segment, query := query }
  | some host, none => { res with host := some host, port := some segment, query := query }
  | some host, some part =>
      { res with host := some host, port := some part, path := some segment, query := query }

/-- `ast_uri_parse` behind the user info, by the results of its searches. -/
theorem parseHost_eq (scheme userInfo : Option (List UInt8)) {uri rest behind segment : List UInt8}
    {host part query : Option (List UInt8)} (hcolon : detach [colon] uri = (host, rest))
    (hslash : detach [slash] rest = (part, behind)) (hcut : cutQuery behind = (segment, query)) :
    parseHost { scheme := scheme, userInfo := userInfo } uri =
      assemble { scheme := scheme, userInfo := userInfo } host part segment query := by
  simp only [parseHost, hcolon, hslash, hcut]
  cases host with
  | none =>
      cases part with
      | none => rfl
      | some part => simp [colon, slash, assemble]
  | some host =>
      cases part with
      | none => rfl
      | some part => simp [colon, slash, assemble]

namespace Parts

/-- The path is joined to what is in front of it. -/
theorem front_pathText (c : Parts) :
    c.front ++ c.pathText = joined slash c.front c.path c.queryText := by
  unfold pathText joined
  cases c.path <;> simp

/-- The text behind the user info is taken apart exactly if its separators are where they belong. -/
theorem parseHost_iff (c : Parts) :
    parseHost { scheme := c.scheme, userInfo := c.userInfo } c.hostText = c.uri ↔
      Joint colon c.host c.port c.pathText ∧ Joint slash c.front c.path c.queryText ∧
        questionMark ∉ c.path.getD c.front := by
  constructor
  · intro h
    obtain ⟨host, rest, hcolon⟩ : ∃ host rest, detach [colon] c.hostText = (host, rest) :=
      ⟨_, _, rfl⟩
    obtain ⟨part, behind, hslash⟩ : ∃ part behind, detach [slash] rest = (part, behind) :=
      ⟨_, _, rfl⟩
    obtain ⟨segment, query, hcut⟩ : ∃ segment query, cutQuery behind = (segment, query) :=
      ⟨_, _, rfl⟩
    rw [parseHost_eq c.scheme c.userInfo hcolon hslash hcut] at h
    have hparts : host = c.port.map (fun _ => c.host) ∧ part = c.path.map (fun _ => c.front) ∧
        (segment, query) = (c.path.getD c.front, c.query) := by
      cases host with
      | none =>
          cases part with
          | none =>
              obtain ⟨-, -, hhost, hport, hpath, hquery⟩ := AstUri.mk.inj h
              simp [front, ← hport, ← hpath, ← hquery, ← Option.some.inj hhost]
          | some part =>
              obtain ⟨-, -, hhost, hport, hpath, hquery⟩ := AstUri.mk.inj h
              simp [front, ← hport, ← hpath, ← hquery, ← Option.some.inj hhost]
      | some host =>
          cases part with
          | none =>
              obtain ⟨-, -, hhost, hport, hpath, hquery⟩ := AstUri.mk.inj h
              simp [front, ← hport, ← hpath, ← hquery, ← Option.some.inj hhost]
          | some part =>
              obtain ⟨-, -, hhost, hport, hpath, hquery⟩ := AstUri.mk.inj h
              simp [front, ← hport, ← hpath, ← hquery, ← Option.some.inj hhost]
    obtain ⟨hhost, hpart, hlast⟩ := hparts
    rw [hlast] at hcut
    -- a part that comes out right leaves the right text for the next one
    have hport : Joint colon c.host c.port c.pathText := by
      rw [← fst_detach_joined_iff]
      exact (congrArg Prod.fst hcolon).trans hhost
    have hrest : rest = c.front ++ c.pathText := by
      rw [hostText, hport.detach_eq] at hcolon
      exact (Prod.mk.inj hcolon).2.symm
    have hpath : Joint slash c.front c.path c.queryText := by
      rw [← fst_detach_joined_iff, ← front_pathText, ← hrest]
      exact (congrArg Prod.fst hslash).trans hpart
    have hbehind : behind = c.path.getD c.front ++ c.queryText := by
      rw [hrest, front_pathText, hpath.detach_eq] at hslash
      exact (Prod.mk.inj hslash).2.symm
    rw [hbehind, cutQuery_iff] at hcut
    exact ⟨hport, hpath, hcut⟩
  · rintro ⟨hport, hpath, hquery⟩
    have hslash := hpath.detach_eq
    rw [← front_pathText] at hslash
    rw [hostText, parseHost_eq c.scheme c.userInfo hport.detach_eq hslash
      ((cutQuery_iff c _).mpr hquery)]
    unfold uri front
    cases c.port <;> cases c.path <;> rfl

end Parts

/-- A URI is parsed into what it was made of if and only if each of its separators is the first one
in what is left of the text, and no separator that is left out occurs behind. -/
theorem astUriParse_iff (c : Parts) : astUriParse c.text = c.uri ↔ c.Separable := by
  have hne : afterScheme ≠ [] := List.cons_ne_nil _ _
  have hscheme : ∀ res uri, (parseHost res uri).scheme = res.scheme ∧
      (parseHost res uri).userInfo = res.userInfo := fun res uri => by
    simp only [parseHost]
    split_ifs <;> exact ⟨rfl, rfl⟩
  constructor
  · intro h
    have hfirst : Clear afterScheme c.scheme c.userText := by
      rw [← fst_detach_attach_iff hne]
      exact (hscheme _ _).1.symm.trans (congrArg AstUri.scheme h)
    have hcut := (detach_attach_iff hne c.scheme c.userText).mpr hfirst
    rw [astUriParse, Parts.text, hcut] at h
    have hsecond : Clear [atSign] c.userInfo c.hostText := by
      rw [← fst_detach_attach_iff (List.cons_ne_nil atSign [])]
      exact (hscheme _ _).2.symm.trans (congrArg AstUri.userInfo h)
    have hcut' := (detach_attach_iff (List.cons_ne_nil atSign []) c.userInfo c.hostText).mpr hsecond
    dsimp only at h
    rw [Parts.userText, hcut'] at h
    obtain ⟨hport, hpath, hquery⟩ := c.parseHost_iff.mp h
    exact ⟨hfirst, hsecond, hport, hpath, hquery⟩
  · intro h
    rw [astUriParse, Parts.text, (detach_attach_iff hne _ _).mpr h.scheme]
    dsimp only
    rw [Parts.userText, (detach_attach_iff (List.cons_ne_nil atSign []) _ _).mpr h.userInfo]
    exact c.parseHost_iff.mpr ⟨h.port, h.path, h.query⟩

end Uri

end RVDataFusionServer
