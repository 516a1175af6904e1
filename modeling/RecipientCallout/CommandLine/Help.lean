import RecipientCallout.CommandLine.Basic

/-!
# The help text

What the program prints when it is asked for help. The value of the environment variable is shown as it
stands; where it has line ends, its lines are aligned.
-/

namespace RecipientCallout.CommandLine
open RecipientCallout.Text

/-- The column in which descriptions of options begin. -/
def helpColumn : Nat := 31

/-- A value of the environment with its lines aligned. -/
def alignLines (value : String) : String :=
  String.ofList <| value.toList.flatMap fun c =>
    if c = '\n' then '\n' :: List.replicate helpColumn ' ' else [c]

/-- The help text under a value of the environment variable. -/
def help (environment : Option RawText) : String :=
  let value := ((environment.map RawText.lossy).map alignLines).getD ""
  "Address verification callout for a mail relay (LDAP lookup)\n" ++
  "\n" ++
  "Usage: mailverify-cli [OPTIONS] [ADDRESS]...\n" ++
  "\n" ++
  "Arguments:\n" ++
  "  [ADDRESS]...  adresse à vérifier, puis les champs ajoutés par le relais " ++
  "(expéditeur, IP client, domaine, auth...)\n" ++
  "\n" ++
  "Options:\n" ++
  "      --version                affiche la version et quitte (aucun accès réseau)\n" ++
  "      --config <CONFIG>        fichier de configuration TOML [env: " ++ configVariable ++ "=" ++
  value ++ "] [default: " ++ defaultConfig ++ "]\n" ++
  "      --log-level <LOG_LEVEL>  filtre de logs (stderr), ex. `debug` ou `mailverify_lib=trace`\n" ++
  "  -h, --help                   Print help\n"

end RecipientCallout.CommandLine
