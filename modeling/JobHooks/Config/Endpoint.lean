import JobHooks.Config.Error
import JobHooks.Text.Blank

/-!
# Endpoints

An endpoint names a local socket, by its path alone or with the scheme `unix:` or `unix://` in
front; blanks around it do not count.  `socketPath` is the path, unless there is none, or the
endpoint has another scheme.
-/

namespace JobHooks

set_option autoImplicit false

namespace Endpoint

/-- What is left behind the characters of a scheme, if they stand in front. -/
def behind? (scheme : List Char) (characters : List Char) : Option (List Char) :=
  if scheme.isPrefixOf characters then some (characters.drop scheme.length) else none

/-- The scheme of local sockets, with the slashes that may belong to it. -/
def longScheme : List Char := ['u', 'n', 'i', 'x', ':', '/', '/']

/-- The scheme of local sockets. -/
def shortScheme : List Char := ['u', 'n', 'i', 'x', ':']

/-- What is left behind the scheme, or everything if there is none. -/
def withoutScheme (characters : List Char) : List Char :=
  ((behind? longScheme characters) <|> (behind? shortScheme characters)).getD characters

/-- Whether the sign that ends a scheme occurs anywhere. -/
def hasSchemeSign : List Char → Bool
  | [] => false
  | first :: rest => [':', '/', '/'].isPrefixOf (first :: rest) || hasSchemeSign rest

/-- The path of the socket that an endpoint names. -/
def socketPath (endpoint : String) : Except ConfigError String :=
  let characters := Text.trim endpoint.toList
  let path := withoutScheme characters
  if path.isEmpty then .error (.emptyEndpoint endpoint)
  else if hasSchemeSign characters && !longScheme.isPrefixOf characters then
    .error (.foreignScheme endpoint)
  else .ok (String.ofList path)

end Endpoint

/-- The path of the daemon's socket. -/
def PluginConfig.socketPath (plugin : PluginConfig) : Except ConfigError String :=
  Endpoint.socketPath plugin.endpoint

end JobHooks
