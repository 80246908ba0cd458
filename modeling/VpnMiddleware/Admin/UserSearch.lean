import VpnMiddleware.Common.Errors
import VpnMiddleware.Core.LikePattern
import VpnMiddleware.Core.WebText
import VpnMiddleware.Schema.Types

/-!
# User search

The user list of the admin dashboard: a search text is trimmed, its ILIKE
metacharacters are escaped, and it is looked for inside the addresses.
-/

namespace VpnMiddleware.UserSearch

open VpnMiddleware.Schema VpnMiddleware.Errors VpnMiddleware.WebText
open VpnMiddleware.LikePattern

/-! ## The search text -/

/-- `text.replace(/c/g, replacement)`. -/
def replaceEach (c : Char) (replacement text : List Char) : List Char :=
  text.flatMap fun d => if d = c then replacement else [d]

def escapeLike (text : List Char) : List Char :=
  replaceEach '_' ['\\', '_'] <|
    replaceEach '%' ['\\', '%'] <|
      replaceEach '\\' ['\\', '\\'] text

/-- `text.trim()`. -/
def trim (text : List Char) : List Char :=
  ((text.dropWhile isSpace).reverse.dropWhile isSpace).reverse

/-- What a request asks for: an absent or blank search is null. -/
def searchText (search : Option String) : Option (List Char) :=
  match search.map fun text => trim text.toList with
  | none | some [] => none
  | some (c :: rest) => some (escapeLike (c :: rest))

/-! ## The list -/

structure ListOptions where
  search : Option String := none
  limit : Option ℕ := none
  offset : Option ℕ := none
  deriving DecidableEq, Repr

structure SessionBrief where
  id : ℕ
  status : SessionStatus
  tier : PlanTier
  expiresAt : ℕ
  deriving DecidableEq, Repr

structure AdminUserRow where
  id : ℕ
  email : Option String
  isAnonymous : Bool
  role : UserRole
  isBanned : Bool
  status : UserStatus
  createdAt : String
  activeSessions : List SessionBrief
  deriving DecidableEq, Repr

structure UserPage where
  total : ℕ
  users : List AdminUserRow
  deriving DecidableEq, Repr

section Listing

variable (fold : Char → Char)

/-- The condition of both queries on one user; `none` if the pattern is
refused.  A null address matches no pattern. -/
def isListed (search : Option (List Char)) (user : User) : Option Bool :=
  if user.status = .deleted then some false
  else match search, user.email with
    | none, _ => some true
    | some _, none => some false
    | some text, some email =>
        ilike fold email.toList ('%' :: (text ++ ['%']))

/-- The users that meet the condition; an error on one row fails the query. -/
def selectListed (search : Option (List Char)) : List User → Option (List User)
  | [] => some []
  | user :: users => do
      let hit ← isListed fold search user
      let others ← selectListed search users
      some (if hit then user :: others else others)

def activeSessions (sessions : List Session) (user : User) : List SessionBrief :=
  (sessions.filter fun row => row.userId == user.id && row.status.isLive).map
    fun row => ⟨row.id, row.status, row.tier, row.expiresAt⟩

def mapUserRow (createdAt : ℕ → ℕ) (sessions : List Session) (user : User) :
    AdminUserRow where
  id := user.id
  email := user.email
  isAnonymous := user.isAnonymous
  role := user.role
  isBanned := user.isBanned
  status := user.status
  createdAt := isoString (createdAt user.id)
  activeSessions := activeSessions sessions user

/-- Newest first; `createdAt` is the column of that name.  A parameter with
U+0000 is refused. -/
def listUsers (createdAt : ℕ → ℕ) (users : List User) (sessions : List Session)
    (opts : ListOptions) : Option UserPage := do
  let limit := min (max (opts.limit.getD 25) 1) 100
  let offset := opts.offset.getD 0
  let search := searchText opts.search
  if search.any holdsNul then none
  else
    let listed ← selectListed fold search users
    let ordered := listed.mergeSort fun left right =>
      decide (createdAt right.id ≤ createdAt left.id)
    let page := (ordered.drop offset).take limit
    some ⟨listed.length, page.map (mapUserRow createdAt sessions)⟩

end Listing

/-! ## Escaped text is literal -/

/-- What one character becomes. -/
def escapeChar (c : Char) : List Char :=
  if c = '\\' ∨ c = '%' ∨ c = '_' then ['\\', c] else [c]

theorem escapeLike_eq (text : List Char) :
    escapeLike text = text.flatMap escapeChar := by
  simp only [escapeLike, replaceEach, List.flatMap_assoc]
  congr 1
  funext c
  by_cases hbackslash : c = '\\'
  · subst hbackslash
    rfl
  by_cases hpercent : c = '%'
  · subst hpercent
    rfl
  by_cases hunderscore : c = '_'
  · subst hunderscore
    rfl
  simp [escapeChar, hbackslash, hpercent, hunderscore]

theorem pieces_escapeChar_append (c : Char) (rest : List Char) :
    pieces (escapeChar c ++ rest) = (pieces rest).map (.literal c :: ·) := by
  by_cases hspecial : c = '\\' ∨ c = '%' ∨ c = '_'
  · rw [escapeChar, if_pos hspecial]
    exact pieces_escaped c rest
  · rw [escapeChar, if_neg hspecial]
    simp only [not_or] at hspecial
    obtain ⟨hbackslash, hpercent, hunderscore⟩ := hspecial
    exact pieces_plain hbackslash hpercent hunderscore rest

theorem pieces_escapeLike_append (text rest : List Char) :
    pieces (escapeLike text ++ rest) =
      (pieces rest).map (text.map .literal ++ ·) := by
  rw [escapeLike_eq]
  induction text with
  | nil => simp
  | cons c text ih =>
      rw [List.flatMap_cons, List.append_assoc, pieces_escapeChar_append, ih]
      simp [Function.comp_def]

section Literal

variable {fold : Char → Char}

/-- The pattern around an escaped text is valid, and its matches are the
occurrences of the text. -/
theorem ilike_escapeLike (search email : List Char) :
    ilike fold email ('%' :: (escapeLike search ++ ['%'])) =
      some (decide (search.map fold <:+: email.map fold)) := by
  have hpieces : pieces ('%' :: (escapeLike search ++ ['%'])) =
      some (.anyRun :: (search.map .literal ++ [.anyRun])) := by
    rw [pieces_percent, pieces_escapeLike_append]
    rfl
  rw [ilike, hpieces, Option.map_some]
  congr 1
  rw [Bool.eq_iff_iff, accepts_between_runs_iff, decide_eq_true_iff]

/-- The user is there and, if a text is looked for, its address holds it. -/
def isFound (fold : Char → Char) (search : Option String) (user : User) : Bool :=
  user.status != .deleted &&
    match search.map fun text => trim text.toList with
    | none | some [] => true
    | some (c :: rest) => user.email.any fun email =>
        decide ((c :: rest).map fold <:+: email.toList.map fold)

theorem isListed_searchText (search : Option String) (user : User) :
    isListed fold (searchText search) user = some (isFound fold search user) := by
  simp only [isListed, isFound]
  by_cases hdeleted : user.status = .deleted
  · simp [hdeleted]
  rw [if_neg hdeleted, searchText]
  cases hraw : search.map fun text => trim text.toList with
  | none => simp [hdeleted]
  | some raw =>
      cases raw with
      | nil => simp [hdeleted]
      | cons c rest =>
          cases user.email with
          | none => simp
          | some email => simp [hdeleted, ilike_escapeLike]

theorem selectListed_searchText (search : Option String) (users : List User) :
    selectListed fold (searchText search) users =
      some (users.filter (isFound fold search)) := by
  induction users with
  | nil => rfl
  | cons user users ih =>
      rw [selectListed, isListed_searchText, ih, List.filter_cons]
      rfl

/-- The window of these users that the options ask for, newest first. -/
def IsWindow (createdAt : ℕ → ℕ) (sessions : List Session) (opts : ListOptions)
    (found : List User) (page : UserPage) : Prop :=
  ∃ listing : List User, listing.Perm found ∧
    (listing.Pairwise fun left right => createdAt right.id ≤ createdAt left.id) ∧
    page.total = listing.length ∧
    page.users = ((listing.drop (opts.offset.getD 0)).take
      (min (max (opts.limit.getD 25) 1) 100)).map (mapUserRow createdAt sessions)

theorem listUsers_of_storable {createdAt : ℕ → ℕ} {users : List User}
    {sessions : List Session} {opts : ListOptions}
    (hnul : (searchText opts.search).any holdsNul = false) :
    ∃ page, listUsers fold createdAt users sessions opts = some page ∧
      IsWindow createdAt sessions opts (users.filter (isFound fold opts.search))
        page := by
  rw [listUsers, hnul, if_neg Bool.false_ne_true, selectListed_searchText]
  refine ⟨_, rfl, _, List.mergeSort_perm _ _, ?_, ?_, rfl⟩
  · have hsorted : ((users.filter (isFound fold opts.search)).mergeSort
        fun left right => decide (createdAt right.id ≤ createdAt left.id)).Pairwise
        fun left right => decide (createdAt right.id ≤ createdAt left.id) = true := by
      apply List.pairwise_mergeSort
      · intro first second third hfirst hsecond
        rw [decide_eq_true_eq] at hfirst hsecond ⊢
        exact hsecond.trans hfirst
      · intro left right
        rw [Bool.or_eq_true, decide_eq_true_eq, decide_eq_true_eq]
        exact le_total _ _
    exact hsorted.imp fun hle => of_decide_eq_true hle
  · rw [List.length_mergeSort]

/-- Escaping leaves no wildcard: the pattern of a search matches the addresses
that hold its text.  The page shows its window of the users so found, unless
the text is one that no column holds. -/
theorem search_literal :
    (∀ search email : List Char,
      ilike fold email ('%' :: (escapeLike search ++ ['%'])) =
        some (decide (search.map fold <:+: email.map fold))) ∧
    ∀ (createdAt : ℕ → ℕ) (users : List User) (sessions : List Session)
      (opts : ListOptions),
      ((searchText opts.search).any holdsNul = true ∧
        listUsers fold createdAt users sessions opts = none) ∨
      ((searchText opts.search).any holdsNul = false ∧
        ∃ page, listUsers fold createdAt users sessions opts = some page ∧
          IsWindow createdAt sessions opts
            (users.filter (isFound fold opts.search)) page) := by
  constructor
  · exact ilike_escapeLike
  · intro createdAt users sessions opts
    cases hnul : (searchText opts.search).any holdsNul with
    | true =>
        refine Or.inl ⟨rfl, ?_⟩
        rw [listUsers, hnul, if_pos rfl]
    | false => exact Or.inr ⟨rfl, listUsers_of_storable hnul⟩

end Literal

end VpnMiddleware.UserSearch
