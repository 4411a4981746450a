import Balance.CommandLine.Options

/-!
Help texts of the program and its commands.
-/

namespace Balance.CommandLine.Topic

def lines : Topic → List String
  | program => [
    "Client-side URL load balancer with failover",
    "",
    "Usage: url-balancer [OPTIONS] <COMMAND>",
    "",
    "Commands:",
    "  check     Validate the configuration and print the effective setup",
    "  simulate  Run selections and print how they were distributed",
    "  watch     Reload the configuration whenever the file changes",
    "  help      Print this message or the help of the given subcommand(s)",
    "",
    "Options:",
    "  -c, --config <CONFIG>  Path to the TOML configuration file [default: url-balancer.toml]",
    "  -h, --help             Print help"]
  | check => [
    "Validate the configuration and print the effective setup",
    "",
    "Usage: url-balancer check",
    "",
    "Options:",
    "  -h, --help  Print help"]
  | simulate => [
    "Run selections and print how they were distributed",
    "",
    "Usage: url-balancer simulate [OPTIONS]",
    "",
    "Options:",
    "  -n, --requests <REQUESTS>        [default: 10]",
    "      --client-id <CLIENT_ID>      Client id for sticky algorithms",
    "      --fail <FAIL>                URLs whose calls fail with a 503",
    "      --default-url <DEFAULT_URL>  URL used when load balancing is off " ++
      "[default: http://localhost]",
    "  -h, --help                       Print help"]
  | watch => [
    "Reload the configuration whenever the file changes",
    "",
    "Usage: url-balancer watch",
    "",
    "Options:",
    "  -h, --help  Print help"]
  | help => [
    "Print this message or the help of the given subcommand(s)",
    "",
    "Usage: url-balancer help [COMMAND]",
    "",
    "Arguments:",
    "  [COMMAND]  Print help for the subcommand(s)"]

end Balance.CommandLine.Topic
