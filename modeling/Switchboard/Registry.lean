import Switchboard.Tally

/-!
# The registry of connections

A `Member` is what stays the same about a connection: its id, the user it belongs to and the tag of
the application that opened it. The registry finds members by id and lists those of a user in the
order in which they were inserted. The two indexes change together: `Registry.insert` and
`Registry.remove` are the only ways to change either.

## Shape of the indexes

`byId` holds each id once. `byUser` holds a user's members in order, once per insertion, and no user
without members.
-/

namespace Switchboard

/-- What stays the same about a connection. -/
structure Member where
  id : String
  user : Option String
  tag : Option String
  deriving DecidableEq, Repr, Inhabited

namespace Member

/-- A text that counts as absent if it is empty. -/
def nonEmpty (s : String) : Option String := if s.isEmpty then none else some s

/-- The member with the given id, user and tag, an empty user or tag counting as none. -/
def ofTexts (id : String) (user tag : Option String) : Member :=
  ⟨id, user.bind nonEmpty, tag.bind nonEmpty⟩

end Member

/-- Members by id and by user. -/
structure Registry where
  byId : List Member := []
  byUser : List (String × List Member) := []
  deriving DecidableEq, Repr, Inhabited

/-- The numbers that describe a registry. -/
structure Stats where
  total : Nat
  uniqueUsers : Nat
  anonymous : Nat
  /-- The number of members of each tag that has some. -/
  apps : Tally
  deriving DecidableEq, Repr

namespace Registry

/-- Put a member in the place of the one with its id, or at the end. -/
def replaceOrAppend (m : Member) : List Member → List Member
  | [] => [m]
  | x :: rest => if x.id = m.id then m :: rest else x :: replaceOrAppend m rest

/-- Append a member to the list of a user. -/
def appendTo (user : String) (m : Member) :
    List (String × List Member) → List (String × List Member)
  | [] => [(user, [m])]
  | (u, ms) :: rest =>
    if u = user then (u, ms ++ [m]) :: rest else (u, ms) :: appendTo user m rest

/-- Delete an id from the list of a user, and the list once it is empty. -/
def deleteFrom (user id : String) :
    List (String × List Member) → List (String × List Member)
  | [] => []
  | (u, ms) :: rest =>
    if u = user then
      let left := ms.filter fun m => m.id ≠ id
      if left.isEmpty then rest else (u, left) :: rest
    else (u, ms) :: deleteFrom user id rest

/-- Register a member. -/
def insert (r : Registry) (m : Member) : Registry where
  byId := replaceOrAppend m r.byId
  byUser := m.user.elim r.byUser fun u => appendTo u m r.byUser

/-- The member registered under an id. -/
def lookup (r : Registry) (id : String) : Option Member :=
  r.byId.find? fun m => m.id = id

/-- Unregister the member under an id: the member, if there was one, and the registry after. -/
def remove (r : Registry) (id : String) : Option Member × Registry :=
  match r.lookup id with
  | none => (none, r)
  | some m =>
    (some m,
      { byId := r.byId.filter fun x => x.id ≠ id
        byUser := m.user.elim r.byUser fun u => deleteFrom u id r.byUser })

/-- The members of a user in the order of their insertion, if there are some. -/
def lookupUser (r : Registry) (user : String) : Option (List Member) :=
  r.byUser.lookup user

/-- The first member of a user with the given tag whose connection is alive. -/
def lookupUserByTag (r : Registry) (alive : String → Bool) (user tag : String) : Option Member :=
  (r.lookupUser user).bind fun ms => ms.find? fun m => alive m.id && m.tag = some tag

/-- All members. -/
def all (r : Registry) : List Member := r.byId

/-- The number of members. -/
def size (r : Registry) : Nat := r.byId.length

/-- Whether there is no member. -/
def isEmpty (r : Registry) : Bool := r.byId.isEmpty

/-- The number of users with members. -/
def userCount (r : Registry) : Nat := r.byUser.length

/-- The numbers that describe the registry. -/
def stats (r : Registry) : Stats where
  total := r.size
  uniqueUsers := r.userCount
  anonymous := r.byId.countP fun m => m.user.isNone
  apps := (r.byId.filterMap Member.tag).foldl Tally.bump {}

end Registry

end Switchboard
