/-!
# Reserved words

The words of each dialect that cannot stand for an identifier unless they are quoted, in small
letters and alphabetical order.
-/

namespace LinkedTables.Dialect

/-- The reserved words of standard SQL. -/
def standardReserved : List String :=
  ["all", "analyse", "analyze", "and", "any", "array", "as", "asc", "asymmetric", "authorization",
    "between", "binary", "both", "case", "cast", "check", "collate", "column", "constraint",
    "create", "cross", "current_date", "current_role", "current_time", "current_timestamp",
    "current_user", "default", "deferrable", "desc", "distinct", "do", "else", "end", "except",
    "false", "for", "foreign", "freeze", "from", "full", "grant", "group", "having", "ilike",
    "in", "initially", "inner", "intersect", "into", "is", "isnull", "join", "leading", "left",
    "like", "limit", "localtime", "localtimestamp", "natural", "new", "not", "notnull", "null",
    "off", "offset", "old", "on", "only", "or", "order", "outer", "overlaps", "placing",
    "primary", "references", "right", "select", "session_user", "set", "similar", "some",
    "symmetric", "table", "then", "to", "trailing", "true", "union", "unique", "user", "using",
    "verbose", "when", "where"]

/-- The reserved words of SQLite. -/
def sqliteReserved : List String :=
  ["add", "after", "all", "alter", "analyze", "and", "as", "asc", "attach", "autoincrement",
    "before", "begin", "between", "by", "cascade", "case", "cast", "check", "collate", "column",
    "commit", "conflict", "constraint", "create", "cross", "current_date", "current_time",
    "current_timestamp", "database", "default", "deferrable", "deferred", "delete", "desc",
    "detach", "distinct", "drop", "each", "else", "end", "escape", "except", "exclusive",
    "exists", "explain", "fail", "false", "for", "foreign", "from", "full", "glob", "group",
    "having", "if", "ignore", "immediate", "in", "index", "indexed", "initially", "inner",
    "insert", "instead", "intersect", "into", "is", "isnull", "join", "key", "left", "like",
    "limit", "match", "natural", "not", "notnull", "null", "of", "offset", "on", "or", "order",
    "outer", "plan", "pragma", "primary", "query", "raise", "references", "reindex", "rename",
    "replace", "restrict", "right", "rollback", "row", "select", "set", "table", "temp",
    "temporary", "then", "to", "transaction", "trigger", "true", "union", "unique", "update",
    "using", "vacuum", "values", "view", "virtual", "when", "where"]

/-- The reserved words of MySQL and MariaDB. -/
def mysqlReserved : List String :=
  ["accessible", "add", "admin", "all", "alter", "analyze", "and", "array", "as", "asc",
    "asensitive", "before", "between", "bigint", "binary", "blob", "both", "by", "call",
    "cascade", "case", "change", "char", "character", "check", "collate", "column", "condition",
    "constraint", "continue", "convert", "create", "cross", "cube", "cume_dist", "current_date",
    "current_time", "current_timestamp", "current_user", "cursor", "database", "databases",
    "day_hour", "day_microsecond", "day_minute", "day_second", "dec", "decimal", "declare",
    "default", "delayed", "delete", "dense_rank", "desc", "describe", "deterministic", "distinct",
    "distinctrow", "div", "double", "drop", "dual", "each", "else", "elseif", "empty", "enclosed",
    "escaped", "except", "exists", "exit", "explain", "false", "fetch", "first_value", "float",
    "float4", "float8", "for", "force", "foreign", "from", "fulltext", "function", "general",
    "generated", "get", "get_master_public_key", "grant", "group", "grouping", "groups", "having",
    "high_priority", "hour_microsecond", "hour_minute", "hour_second", "if", "ignore",
    "ignore_server_ids", "in", "index", "infile", "inner", "inout", "insensitive", "insert",
    "int", "int1", "int2", "int3", "int4", "int8", "integer", "intersect", "interval", "into",
    "io_after_gtids", "io_before_gtids", "is", "iterate", "join", "json_table", "key", "keys",
    "kill", "lag", "last_value", "lateral", "lead", "leading", "leave", "left", "like", "limit",
    "linear", "lines", "load", "localtime", "localtimestamp", "lock", "long", "longblob",
    "longtext", "loop", "low_priority", "master_bind", "master_heartbeat_period",
    "master_ssl_verify_server_cert", "match", "maxvalue", "mediumblob", "mediumint", "mediumtext",
    "member", "middleint", "minute_microsecond", "minute_second", "mod", "modifies", "natural",
    "no_write_to_binlog", "not", "nth_value", "ntile", "null", "numeric", "of", "on", "optimize",
    "optimizer_costs", "option", "optionally", "or", "order", "out", "outer", "outfile", "over",
    "parallel", "parse_gcol_expr", "partition", "percent_rank", "persist", "persist_only",
    "precision", "primary", "procedure", "purge", "qualify", "range", "rank", "read",
    "read_write", "reads", "real", "recursive", "references", "regexp", "release", "rename",
    "repeat", "replace", "require", "resignal", "restrict", "return", "revoke", "right", "rlike",
    "role", "row", "row_number", "rows", "schema", "schemas", "second_microsecond", "select",
    "sensitive", "separator", "set", "show", "signal", "slow", "smallint", "spatial", "specific",
    "sql", "sql_after_gtids", "sql_before_gtids", "sql_big_result", "sql_calc_found_rows",
    "sql_small_result", "sqlexception", "sqlstate", "sqlwarning", "ssl", "starting", "stored",
    "straight_join", "system", "table", "terminated", "then", "tinyblob", "tinyint", "tinytext",
    "to", "trailing", "trigger", "true", "undo", "union", "unique", "unlock", "unsigned",
    "update", "usage", "use", "using", "utc_date", "utc_time", "utc_timestamp", "values",
    "varbinary", "varchar", "varcharacter", "varying", "virtual", "when", "where", "while",
    "window", "with", "write", "xor", "year_month", "zerofill"]

/-- The reserved words of PostgreSQL. -/
def postgresqlReserved : List String :=
  ["all", "analyse", "analyze", "and", "any", "array", "as", "asc", "asymmetric", "authorization",
    "between", "binary", "both", "case", "cast", "check", "collate", "column", "constraint",
    "create", "cross", "current_catalog", "current_date", "current_role", "current_schema",
    "current_time", "current_timestamp", "current_user", "default", "deferrable", "desc",
    "distinct", "do", "else", "end", "except", "false", "fetch", "for", "foreign", "freeze",
    "from", "full", "grant", "group", "having", "ilike", "in", "initially", "inner", "intersect",
    "into", "is", "isnull", "join", "leading", "left", "like", "limit", "localtime",
    "localtimestamp", "natural", "new", "not", "notnull", "null", "of", "off", "offset", "old",
    "on", "only", "or", "order", "outer", "over", "overlaps", "placing", "primary", "references",
    "returning", "right", "select", "session_user", "similar", "some", "symmetric", "table",
    "then", "to", "trailing", "true", "union", "unique", "user", "using", "variadic", "verbose",
    "when", "where", "window", "with"]

/-- The reserved words of Oracle. -/
def oracleReserved : List String :=
  ["all", "alter", "and", "any", "as", "asc", "between", "by", "char", "check", "cluster",
    "comment", "compress", "connect", "create", "current", "date", "decimal", "default", "delete",
    "desc", "distinct", "drop", "else", "exclusive", "exists", "float", "for", "from", "grant",
    "group", "having", "identified", "in", "index", "insert", "integer", "intersect", "into",
    "is", "level", "like", "lock", "long", "minus", "mode", "nocompress", "not", "nowait", "null",
    "number", "of", "on", "option", "or", "order", "pctfree", "prior", "public", "raw", "rename",
    "resource", "revoke", "select", "set", "share", "size", "smallint", "start", "synonym",
    "table", "then", "to", "trigger", "uid", "union", "unique", "update", "user", "values",
    "varchar", "varchar2", "view", "where", "with"]

/-- The reserved words of SQL Server. -/
def sqlServerReserved : List String :=
  ["add", "all", "alter", "and", "any", "as", "asc", "authorization", "backup", "begin",
    "between", "break", "browse", "bulk", "by", "cascade", "case", "check", "checkpoint", "close",
    "clustered", "coalesce", "collate", "column", "commit", "compute", "constraint", "contains",
    "containstable", "continue", "convert", "create", "cross", "current", "current_date",
    "current_time", "current_timestamp", "current_user", "cursor", "database", "dbcc",
    "deallocate", "declare", "default", "delete", "deny", "desc", "disk", "distinct",
    "distributed", "double", "drop", "dump", "else", "end", "errlvl", "escape", "except", "exec",
    "execute", "exists", "exit", "external", "fetch", "file", "fillfactor", "for", "foreign",
    "freetext", "freetexttable", "from", "full", "function", "goto", "grant", "group", "having",
    "holdlock", "identity", "identity_insert", "identitycol", "if", "in", "index", "inner",
    "insert", "intersect", "into", "is", "join", "key", "kill", "left", "like", "lineno", "load",
    "merge", "national", "nocheck", "nonclustered", "not", "null", "nullif", "of", "off",
    "offsets", "on", "open", "opendatasource", "openquery", "openrowset", "openxml", "option",
    "or", "order", "outer", "over", "percent", "pivot", "plan", "precision", "primary", "print",
    "proc", "procedure", "public", "raiserror", "read", "readtext", "reconfigure", "references",
    "replication", "restore", "restrict", "return", "revert", "revoke", "right", "rollback",
    "rowcount", "rowguidcol", "rule", "save", "schema", "securityaudit", "select", "session_user",
    "set", "setuser", "shutdown", "some", "statistics", "system_user", "table", "tablesample",
    "textsize", "then", "to", "top", "tran", "transaction", "trigger", "truncate", "tsequal",
    "union", "unique", "unpivot", "update", "updatetext", "use", "user", "values", "varying",
    "view", "waitfor", "when", "where", "while", "with", "writetext"]

end LinkedTables.Dialect
