/-!
# The support class

Generated statements rely on a small C# support class for what a spreadsheet does and C# does not:
loose conversions, the order of mixed values, checked division and the built-in functions. Its text
is written behind the generated class, and some of its functions raise a spreadsheet error.
-/

namespace SheetCompiler.Code

/-- The namespaces that a generated file imports. -/
def imports : List String :=
  ["System", "System.Collections.Generic", "System.Globalization", "System.Linq"]

/-- The support functions that can raise a spreadsheet error. -/
def raisingHelpers : List String :=
  ["ToNumber", "ToBool", "Divide", "Power", "Mod", "Sqrt", "Average", "And", "Or", "Choose",
    "Index", "Match", "VLookup"]

/-- The full name of a support function. -/
def supportName (helper : String) : String :=
  "XlRuntime." ++ helper

/-- The call target is a support function that can raise a spreadsheet error. -/
def isRaising (target : String) : Bool :=
  raisingHelpers.any fun helper => target == supportName helper

/-- The lines of the support class. -/
def supportLines : List String :=
  ["/// <summary>A spreadsheet error value such as #VALUE! or #N/A.</summary>",
    "public sealed class XlErrorException : Exception",
    "\x7b",
    "    public XlErrorException(string code) : base(code)",
    "    \x7b",
    "        Code = code;",
    "    \x7d",
    "",
    "    public string Code \x7b get; \x7d",
    "\x7d",
    "",
    "/// <summary>",
    "/// A computed cell whose spreadsheet error is held until the cell is read,",
    "/// so an IFERROR downstream can still catch it.",
    "/// </summary>",
    "public sealed class XlValue<T>",
    "\x7b",
    "    private readonly T value;",
    "    private readonly Exception error;",
    "",
    "    public XlValue(Func<T> compute)",
    "    \x7b",
    "        try",
    "        \x7b",
    "            value = compute();",
    "        \x7d",
    "        catch (Exception e) when (e is XlErrorException || e is DivideByZeroException)",
    "        \x7b",
    "            error = e;",
    "        \x7d",
    "    \x7d",
    "",
    "    public T Value => error is null ? value : throw error;",
    "\x7d",
    "",
    "internal static class XlRuntime",
    "\x7b",
    "    public static double ToNumber(double value) => value;",
    "",
    "    public static double ToNumber(long value) => value;",
    "",
    "    public static double ToNumber(bool value) => value ? 1.0 : 0.0;",
    "",
    "    public static double ToNumber(string value)",
    "    \x7b",
    "        if (double.TryParse(value.Trim(), NumberStyles.Float, " ++
      "CultureInfo.InvariantCulture, out var number)",
    "            && double.IsFinite(number))",
    "        \x7b",
    "            return number;",
    "        \x7d",
    "        throw new XlErrorException(\"#VALUE!\");",
    "    \x7d",
    "",
    "    public static double ToNumber(object value) => value switch",
    "    \x7b",
    "        null => 0.0,",
    "        double d => d,",
    "        long l => l,",
    "        int i => i,",
    "        bool b => ToNumber(b),",
    "        string s => ToNumber(s),",
    "        _ => throw new XlErrorException(\"#VALUE!\"),",
    "    \x7d;",
    "",
    "    public static string ToText(double value)",
    "    \x7b",
    "        if (Math.Floor(value) == value && Math.Abs(value) < 1e15)",
    "        \x7b",
    "            return ((long)value).ToString(CultureInfo.InvariantCulture);",
    "        \x7d",
    "        return double.Parse(value.ToString(\"E14\", CultureInfo.InvariantCulture), " ++
      "CultureInfo.InvariantCulture)",
    "            .ToString(\"R\", CultureInfo.InvariantCulture);",
    "    \x7d",
    "",
    "    public static string ToText(long value) => value.ToString(CultureInfo.InvariantCulture);",
    "",
    "    public static string ToText(bool value) => value ? \"TRUE\" : \"FALSE\";",
    "",
    "    public static string ToText(string value) => value;",
    "",
    "    public static string ToText(object value) => value switch",
    "    \x7b",
    "        null => \"\",",
    "        double d => ToText(d),",
    "        long l => ToText(l),",
    "        int i => ToText((long)i),",
    "        bool b => ToText(b),",
    "        string s => s,",
    "        _ => throw new XlErrorException(\"#VALUE!\"),",
    "    \x7d;",
    "",
    "    public static bool ToBool(double value) => value != 0.0;",
    "",
    "    public static bool ToBool(long value) => value != 0;",
    "",
    "    public static bool ToBool(bool value) => value;",
    "",
    "    public static bool ToBool(string value)",
    "    \x7b",
    "        if (string.Equals(value, \"TRUE\", StringComparison.OrdinalIgnoreCase)) return true;",
    "        if (string.Equals(value, \"FALSE\", StringComparison.OrdinalIgnoreCase)) " ++
      "return false;",
    "        throw new XlErrorException(\"#VALUE!\");",
    "    \x7d",
    "",
    "    public static bool ToBool(object value) => value switch",
    "    \x7b",
    "        null => false,",
    "        bool b => b,",
    "        string s => ToBool(s),",
    "        _ => ToNumber(value) != 0.0,",
    "    \x7d;",
    "",
    "    /// <summary>Spreadsheet ordering: numbers &lt; text &lt; booleans; " ++
      "text ignores case.</summary>",
    "    public static int Compare(object left, object right)",
    "    \x7b",
    "        left = Normalize(left) ?? Blank(Normalize(right));",
    "        right = Normalize(right) ?? Blank(left);",
    "        int rank(object v) => v is double ? 0 : v is string ? 1 : 2;",
    "        var byRank = rank(left).CompareTo(rank(right));",
    "        if (byRank != 0) return byRank;",
    "        return left switch",
    "        \x7b",
    "            double d => Math.Sign(d.CompareTo((double)right)),",
    "            string s => Math.Sign(string.Compare(s, (string)right, " ++
      "StringComparison.OrdinalIgnoreCase)),",
    "            _ => ((bool)left).CompareTo((bool)right),",
    "        \x7d;",
    "    \x7d",
    "",
    "    private static object Normalize(object value) => value switch",
    "    \x7b",
    "        long l => (double)l,",
    "        int i => (double)i,",
    "        _ => value,",
    "    \x7d;",
    "",
    "    private static object Blank(object other) => other switch",
    "    \x7b",
    "        string _ => \"\",",
    "        bool _ => false,",
    "        _ => 0.0,",
    "    \x7d;",
    "",
    "    public static double Divide(double numerator, double denominator)",
    "    \x7b",
    "        if (denominator == 0.0) throw new DivideByZeroException(\"#DIV/0!\");",
    "        return numerator / denominator;",
    "    \x7d",
    "",
    "    public static double Power(double value, double exponent) => " ++
      "Finite(Math.Pow(value, exponent));",
    "",
    "    public static double Mod(double value, double divisor)",
    "    \x7b",
    "        if (divisor == 0.0) throw new DivideByZeroException(\"#DIV/0!\");",
    "        return value - divisor * Math.Floor(value / divisor);",
    "    \x7d",
    "",
    "    public static double Sqrt(double value)",
    "    \x7b",
    "        if (value < 0.0) throw new XlErrorException(\"#NUM!\");",
    "        return Math.Sqrt(value);",
    "    \x7d",
    "",
    "    public static double Round(double value, double digits)",
    "    \x7b",
    "        var scale = Math.Pow(10, Math.Truncate(digits));",
    "        return Math.Round(value * scale, MidpointRounding.AwayFromZero) / scale;",
    "    \x7d",
    "",
    "    public static double RoundUp(double value, double digits)",
    "    \x7b",
    "        var scale = Math.Pow(10, Math.Truncate(digits));",
    "        return Math.Sign(value) * Math.Ceiling(Math.Abs(value) * scale) / scale;",
    "    \x7d",
    "",
    "    public static double RoundDown(double value, double digits)",
    "    \x7b",
    "        var scale = Math.Pow(10, Math.Truncate(digits));",
    "        return Math.Sign(value) * Math.Floor(Math.Abs(value) * scale) / scale;",
    "    \x7d",
    "",
    "    public static double Sum(params double[] values) => values.Sum();",
    "",
    "    public static double Average(params double[] values)",
    "    \x7b",
    "        if (values.Length == 0) throw new DivideByZeroException(\"#DIV/0!\");",
    "        return values.Average();",
    "    \x7d",
    "",
    "    public static double Min(params double[] values) => " ++
      "values.Length == 0 ? 0.0 : values.Min();",
    "",
    "    public static double Max(params double[] values) => " ++
      "values.Length == 0 ? 0.0 : values.Max();",
    "",
    "    public static double Product(params double[] values) =>",
    "        values.Length == 0 ? 0.0 : values.Aggregate(1.0, (acc, v) => acc * v);",
    "",
    "    public static double Npv(double rate, params double[] values)",
    "    \x7b",
    "        var total = 0.0;",
    "        for (var i = 0; i < values.Length; i++)",
    "        \x7b",
    "            total += values[i] / Math.Pow(1.0 + rate, i + 1);",
    "        \x7d",
    "        return total;",
    "    \x7d",
    "",
    "    public static long CountNumeric(string value) =>",
    "        double.TryParse(value.Trim(), NumberStyles.Float, " ++
      "CultureInfo.InvariantCulture, out _) ? 1 : 0;",
    "",
    "    public static bool And(params bool[] values)",
    "    \x7b",
    "        if (values.Length == 0) throw new XlErrorException(\"#VALUE!\");",
    "        return values.All(v => v);",
    "    \x7d",
    "",
    "    public static bool Or(params bool[] values)",
    "    \x7b",
    "        if (values.Length == 0) throw new XlErrorException(\"#VALUE!\");",
    "        return values.Any(v => v);",
    "    \x7d",
    "",
    "    public static T IfError<T>(Func<T> value, Func<T> fallback)",
    "    \x7b",
    "        try",
    "        \x7b",
    "            return value();",
    "        \x7d",
    "        catch (Exception e) when (e is XlErrorException || e is DivideByZeroException)",
    "        \x7b",
    "            return fallback();",
    "        \x7d",
    "    \x7d",
    "",
    "    public static T Choose<T>(double index, params Func<T>[] options)",
    "    \x7b",
    "        var i = (long)Math.Truncate(index);",
    "        if (i < 1 || i > options.Length) throw new XlErrorException(\"#VALUE!\");",
    "        return options[i - 1]();",
    "    \x7d",
    "",
    "    public static long Len(string value) => value.Length;",
    "",
    "    public static string Upper(string value) => value.ToUpperInvariant();",
    "",
    "    public static string Lower(string value) => value.ToLowerInvariant();",
    "",
    "    public static string Trim(string value) =>",
    "        string.Join(\" \", value.Split(' ', StringSplitOptions.RemoveEmptyEntries));",
    "",
    "    public static T Index<T>(T[] values, long width, double row, double column)",
    "    \x7b",
    "        var height = values.Length / width;",
    "        var r = (long)Math.Truncate(row);",
    "        var c = (long)Math.Truncate(column);",
    "        if (c == 0)",
    "        \x7b",
    "            if (width == 1) c = 1;",
    "            else if (height == 1) \x7b c = r; r = 1; \x7d",
    "            else throw new XlErrorException(\"#REF!\");",
    "        \x7d",
    "        if (r < 1 || c < 1 || r > height || c > width) throw new XlErrorException(\"#REF!\");",
    "        return values[(r - 1) * width + c - 1];",
    "    \x7d",
    "",
    "    /// <summary>1-based position; type 0 exact, " ++
      "1 largest &lt;= key, -1 smallest &gt;= key.</summary>",
    "    public static long Match(object key, object[] values, double matchType)",
    "    \x7b",
    "        if (matchType == 0.0)",
    "        \x7b",
    "            for (var i = 0; i < values.Length; i++)",
    "            \x7b",
    "                if (Compare(values[i], key) == 0) return i + 1;",
    "            \x7d",
    "            throw new XlErrorException(\"#N/A\");",
    "        \x7d",
    "        long found = 0;",
    "        for (var i = 0; i < values.Length; i++)",
    "        \x7b",
    "            var ordering = Compare(values[i], key);",
    "            if (matchType > 0.0 ? ordering > 0 : ordering < 0) break;",
    "            found = i + 1;",
    "        \x7d",
    "        if (found == 0) throw new XlErrorException(\"#N/A\");",
    "        return found;",
    "    \x7d",
    "",
    "    public static object VLookup(object key, object[] table, long width, " ++
      "double column, bool approximate)",
    "    \x7b",
    "        var col = (long)Math.Truncate(column);",
    "        if (col < 1 || col > width) throw new XlErrorException(\"#REF!\");",
    "        var firstColumn = new object[table.Length / width];",
    "        for (var r = 0; r < firstColumn.Length; r++)",
    "        \x7b",
    "            firstColumn[r] = table[r * width];",
    "        \x7d",
    "        var row = Match(key, firstColumn, approximate ? 1.0 : 0.0);",
    "        return table[(row - 1) * width + col - 1];",
    "    \x7d",
    "",
    "    private static double Finite(double value)",
    "    \x7b",
    "        if (double.IsNaN(value) || double.IsInfinity(value)) " ++
      "throw new XlErrorException(\"#NUM!\");",
    "        return value;",
    "    \x7d",
    "\x7d"]

end SheetCompiler.Code
