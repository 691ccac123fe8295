/-!
# Faults of settings

Why settings cannot be used.
-/

namespace SolrRequest

inductive Kind
  | string
  | boolean
  | numberOrNull
deriving DecidableEq

def Kind.phrase : Kind → String
  | .string => "a string"
  | .boolean => "a boolean"
  | .numberOrNull => "a number or null"

inductive SettingsError
  | noObject (part : String)
  | wrongKind (setting : String) (kind : Kind)
  /-- The timeout is an integer beyond the floats. -/
  | timeoutTooLarge
  | unknownLevel
  | blankDirectory
  | timeoutNotPositive
  | queryInUrl
  | blankUserAgent
deriving DecidableEq

def SettingsError.message : SettingsError → String
  | noObject part => part ++ " must be an object"
  | wrongKind setting kind => setting ++ " must be " ++ kind.phrase
  | timeoutTooLarge => "int too large to convert to float"
  | unknownLevel =>
    "log.level must be one of ['CRITICAL', 'DEBUG', 'ERROR', 'INFO', 'WARNING']"
  | blankDirectory => "log.dir must not be empty"
  | timeoutNotPositive => "solr.timeout must be positive or null"
  | queryInUrl => "solr.get_url and solr.post_url must not contain a query string"
  | blankUserAgent => "solr.user_agent must not be empty"

end SolrRequest
