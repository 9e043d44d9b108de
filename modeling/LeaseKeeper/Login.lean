import LeaseKeeper.Settings.Basic
import LeaseKeeper.Token
/-!
How the session token is obtained.
-/
namespace LeaseKeeper

inductive Login where
  /-- A token supplied from outside, of unknown validity, which the session must not revoke. -/
  | staticToken (token : Hidden)
  | approle (mount roleId : String) (secretId : Hidden)
  deriving DecidableEq, Repr

namespace Login

def method : Login → String
  | staticToken _ => "token"
  | approle _ _ _ => "approle"

def ownsToken : Login → Bool
  | staticToken _ => false
  | approle _ _ _ => true

def ofAppRole (approle : AppRole) : Login :=
  .approle approle.mount approle.roleId ⟨approle.secretId⟩

/-- AppRole when configured, else a token that is not empty. -/
def ofSettings (store : StoreSettings) : Option Login :=
  match store.approle with
  | some role => some (ofAppRole role)
  | none =>
    match store.token with
    | some token => if token.isEmpty then none else some (.staticToken ⟨token⟩)
    | none => none

def text : Login → String
  | staticToken token =>
    Text.labelled "StaticTokenAuthentication" [("token", token.debugText "VaultToken")]
  | approle mount roleId _ =>
    Text.labelled "AppRoleAuthentication"
      [("mount", Text.quoted mount), ("role_id", Text.quoted roleId)]

end Login
end LeaseKeeper
