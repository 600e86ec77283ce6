/-!
# The help text
-/

namespace GraphTypes.CommandLine

/-- What the program prints when it is asked for help. -/
def helpText : String :=
  String.join <| List.map (· ++ "\n")
    ["usage: ts-codegen (--schema <file> | --url <endpoint>) [options]",
      "",
      "generate typescript declarations and resolver signatures from a graphql schema",
      "",
      "schema source:",
      "  --schema <file>       read schema sdl from a local file",
      "  --url <endpoint>      fetch <endpoint>/schema.graphql over http(s)",
      "",
      "options:",
      "  --document <file>     operation document scanned for introspection types",
      "                        (repeatable)",
      "  --config <file>       plugin configuration as json (camelCase keys)",
      "  --plugin <name>       types, resolvers or all (default: all)",
      "  --out <file>          output file (default: stdout)",
      "  -h, --help            print this help",
      "",
      "logging:",
      "  RUST_LOG              tracing filter (default: graphql_ts_codegen=info)"]

end GraphTypes.CommandLine
