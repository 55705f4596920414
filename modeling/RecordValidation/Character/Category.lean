import RecordValidation.Character.Table

/-!
The general category of every code point, by its two-letter code. The sets
named by several categories follow from the table.
-/

namespace RecordValidation.Category

def table : List Table.Run := Table.runs
  "20:Cc 1:Zs 3:Po 1:Sc 3:Po 1:Ps 1:Pe 1:Po 1:Sm 1:Po 1:Pd 2:Po a:Nd 2:Po 3:Sm 2:Po 1a:Lu 1:Ps
  1:Po 1:Pe 1:Sk 1:Pc 1:Sk 1a:Ll 1:Ps 1:Sm 1:Pe 1:Sm 21:Cc 1:Zs 1:Po 4:Sc 1:So 1:Po 1:Sk 1:So
  1:Lo 1:Pi 1:Sm 1:Cf 1:So 1:Sk 1:So 1:Sm 2:No 1:Sk 1:Ll 2:Po 1:Sk 1:No 1:Lo 1:Pf 3:No 1:Po
  17:Lu 1:Sm 7:Lu 18:Ll 1:Sm 8:Ll 1:Lu 1:Ll 1:Lu 1:Ll 1:Lu 1:Ll 1:Lu 1:Ll 1:Lu 1:Ll 1:Lu 1:Ll
  1:Lu 1:Ll 1:Lu 1:Ll 1:Lu 1:Ll 1:Lu 1:Ll 1:Lu 1:Ll 1:Lu 1:Ll 1:Lu 1:Ll 1:Lu 1:Ll 1:Lu 1:Ll
  1:Lu 1:Ll 1:Lu 1:Ll 1:Lu 1:Ll 1:Lu 1:Ll 1:Lu 1:Ll 1:Lu 1:Ll 1:Lu 1:Ll 1:Lu 1:Ll 1:Lu 1:Ll
  1:Lu 1:Ll 1:Lu 1:Ll 1:Lu 1:Ll 1:Lu 2:Ll 1:Lu 1:Ll 1:Lu 1:Ll 1:Lu 1:Ll 1:Lu 1:Ll 1:Lu 1:Ll
  1:Lu 1:Ll 1:Lu 1:Ll 1:Lu 2:Ll 1:Lu 1:Ll 1:Lu 1:Ll 1:Lu 1:Ll 1:Lu 1:Ll 1:Lu 1:Ll 1:Lu 1:Ll
  1:Lu 1:Ll 1:Lu 1:Ll 1:Lu 1:Ll 1:Lu 1:Ll 1:Lu 1:Ll 1:Lu 1:Ll 1:Lu 1:Ll 1:Lu 1:Ll 1:Lu 1:Ll
  1:Lu 1:Ll 1:Lu 1:Ll 1:Lu 1:Ll 1:Lu 1:Ll 1:Lu 1:Ll 1:Lu 1:Ll 1:Lu 1:Ll 1:Lu 1:Ll 2:Lu 1:Ll
  1:Lu 1:Ll 1:Lu 3:Ll 2:Lu 1:Ll 1:Lu 1:Ll 2:Lu 1:Ll 3:Lu 2:Ll 4:Lu 1:Ll 2:Lu 1:Ll 3:Lu 3:Ll
  2:Lu 1:Ll 2:Lu 1:Ll 1:Lu 1:Ll 1:Lu 1:Ll 2:Lu 1:Ll 1:Lu 2:Ll 1:Lu 1:Ll 2:Lu 1:Ll 3:Lu 1:Ll
  1:Lu 1:Ll 2:Lu 2:Ll 1:Lo 1:Lu 3:Ll 4:Lo 1:Lu 1:Lt 1:Ll 1:Lu 1:Lt 1:Ll 1:Lu 1:Lt 1:Ll 1:Lu
  1:Ll 1:Lu 1:Ll 1:Lu 1:Ll 1:Lu 1:Ll 1:Lu 1:Ll 1:Lu 1:Ll 1:Lu 1:Ll 1:Lu 2:Ll 1:Lu 1:Ll 1:Lu
  1:Ll 1:Lu 1:Ll 1:Lu 1:Ll 1:Lu 1:Ll 1:Lu 1:Ll 1:Lu 1:Ll 1:Lu 1:Ll 1:Lu 2:Ll 1:Lu 1:Lt 1:Ll
  1:Lu 1:Ll 3:Lu 1:Ll 1:Lu 1:Ll 1:Lu 1:Ll 1:Lu 1:Ll 1:Lu 1:Ll 1:Lu 1:Ll 1:Lu 1:Ll 1:Lu 1:Ll
  1:Lu 1:Ll 1:Lu 1:Ll 1:Lu 1:Ll 1:Lu 1:Ll 1:Lu 1:Ll 1:Lu 1:Ll 1:Lu 1:Ll 1:Lu 1:Ll 1:Lu 1:Ll
  1:Lu 1:Ll 1:Lu 1:Ll 1:Lu 1:Ll 1:Lu 1:Ll 1:Lu 1:Ll 1:Lu 1:Ll 1:Lu 1:Ll 1:Lu 1:Ll 1:Lu 1:Ll
  1:Lu 1:Ll 1:Lu 1:Ll 1:Lu 1:Ll 1:Lu 7:Ll 2:Lu 1:Ll 2:Lu 2:Ll 1:Lu 1:Ll 4:Lu 1:Ll 1:Lu 1:Ll
  1:Lu 1:Ll 1:Lu 1:Ll 1:Lu 45:Ll 1:Lo 1b:Ll 12:Lm 4:Sk c:Lm e:Sk 5:Lm 7:Sk 1:Lm 1:Sk 1:Lm
  11:Sk 70:Mn 1:Lu 1:Ll 1:Lu 1:Ll 1:Lm 1:Sk 1:Lu 1:Ll 2:Cn 1:Lm 3:Ll 1:Po 1:Lu 4:Cn 2:Sk 1:Lu
  1:Po 3:Lu 1:Cn 1:Lu 1:Cn 2:Lu 1:Ll 11:Lu 1:Cn 9:Lu 23:Ll 1:Lu 2:Ll 3:Lu 3:Ll 1:Lu 1:Ll 1:Lu
  1:Ll 1:Lu 1:Ll 1:Lu 1:Ll 1:Lu 1:Ll 1:Lu 1:Ll 1:Lu 1:Ll 1:Lu 1:Ll 1:Lu 1:Ll 1:Lu 1:Ll 1:Lu
  1:Ll 1:Lu 5:Ll 1:Lu 1:Ll 1:Sm 1:Lu 1:Ll 2:Lu 2:Ll 33:Lu 30:Ll 1:Lu 1:Ll 1:Lu 1:Ll 1:Lu 1:Ll
  1:Lu 1:Ll 1:Lu 1:Ll 1:Lu 1:Ll 1:Lu 1:Ll 1:Lu 1:Ll 1:Lu 1:Ll 1:Lu 1:Ll 1:Lu 1:Ll 1:Lu 1:Ll
  1:Lu 1:Ll 1:Lu 1:Ll 1:Lu 1:Ll 1:Lu 1:Ll 1:Lu 1:Ll 1:So 5:Mn 2:Me 1:Lu 1:Ll 1:Lu 1:Ll 1:Lu
  1:Ll 1:Lu 1:Ll 1:Lu 1:Ll 1:Lu 1:Ll 1:Lu 1:Ll 1:Lu 1:Ll 1:Lu 1:Ll 1:Lu 1:Ll 1:Lu 1:Ll 1:Lu
  1:Ll 1:Lu 1:Ll 1:Lu 1:Ll 1:Lu 1:Ll 1:Lu 1:Ll 1:Lu 1:Ll 1:Lu 1:Ll 1:Lu 1:Ll 1:Lu 1:Ll 1:Lu
  1:Ll 1:Lu 1:Ll 1:Lu 1:Ll 1:Lu 1:Ll 1:Lu 1:Ll 1:Lu 1:Ll 1:Lu 1:Ll 2:Lu 1:Ll 1:Lu 1:Ll 1:Lu
  1:Ll 1:Lu 1:Ll 1:Lu 1:Ll 1:Lu 1:Ll 1:Lu 2:Ll 1:Lu 1:Ll 1:Lu 1:Ll 1:Lu 1:Ll 1:Lu 1:Ll 1:Lu
  1:Ll 1:Lu 1:Ll 1:Lu 1:Ll 1:Lu 1:Ll 1:Lu 1:Ll 1:Lu 1:Ll 1:Lu 1:Ll 1:Lu 1:Ll 1:Lu 1:Ll 1:Lu
  1:Ll 1:Lu 1:Ll 1:Lu 1:Ll 1:Lu 1:Ll 1:Lu 1:Ll 1:Lu 1:Ll 1:Lu 1:Ll 1:Lu 1:Ll 1:Lu 1:Ll 1:Lu
  1:Ll 1:Lu 1:Ll 1:Lu 1:Ll 1:Lu 1:Ll 1:Lu 1:Ll 1:Lu 1:Ll 1:Lu 1:Ll 1:Lu 1:Ll 1:Lu 1:Ll 1:Lu
  1:Ll 1:Lu 1:Ll 1:Lu 1:Ll 1:Lu 1:Ll 1:Lu 1:Ll 1:Lu 1:Ll 1:Lu 1:Ll 1:Lu 1:Ll 1:Lu 1:Ll 1:Lu
  1:Ll 1:Lu 1:Ll 1:Lu 1:Ll 1:Lu 1:Ll 1:Lu 1:Ll 1:Lu 1:Ll 1:Lu 1:Ll 1:Lu 1:Ll 1:Cn 26:Lu 2:Cn
  1:Lm 6:Po 29:Ll 1:Po 1:Pd 2:Cn 2:So 1:Sc 1:Cn 2d:Mn 1:Pd 1:Mn 1:Po 2:Mn 1:Po 2:Mn 1:Po 1:Mn
  8:Cn 1b:Lo 4:Cn 4:Lo 2:Po b:Cn 6:Cf 3:Sm 2:Po 1:Sc 2:Po 2:So b:Mn 1:Po 1:Cf 3:Po 20:Lo 1:Lm
  a:Lo 15:Mn a:Nd 4:Po 2:Lo 1:Mn 63:Lo 1:Po 1:Lo 7:Mn 1:Cf 1:So 6:Mn 2:Lm 2:Mn 1:So 4:Mn 2:Lo
  a:Nd 3:Lo 2:So 1:Lo e:Po 1:Cn 1:Cf 1:Lo 1:Mn 1e:Lo 1b:Mn 2:Cn 59:Lo b:Mn 1:Lo e:Cn a:Nd
  21:Lo 9:Mn 2:Lm 1:So 3:Po 1:Lm 2:Cn 1:Mn 2:Sc 16:Lo 4:Mn 1:Lm 9:Mn 1:Lm 3:Mn 1:Lm 5:Mn 2:Cn
  f:Po 1:Cn 19:Lo 3:Mn 2:Cn 1:Po 1:Cn b:Lo 5:Cn 18:Lo 1:Sk 6:Lo 1:Cn 2:Cf 5:Cn 9:Mn 29:Lo
  1:Lm 18:Mn 1:Cf 20:Mn 1:Mc 36:Lo 1:Mn 1:Mc 1:Mn 1:Lo 3:Mc 8:Mn 4:Mc 1:Mn 2:Mc 1:Lo 7:Mn
  a:Lo 2:Mn 2:Po a:Nd 1:Po 1:Lm f:Lo 1:Mn 2:Mc 1:Cn 8:Lo 2:Cn 2:Lo 2:Cn 16:Lo 1:Cn 7:Lo 1:Cn
  1:Lo 3:Cn 4:Lo 2:Cn 1:Mn 1:Lo 3:Mc 4:Mn 2:Cn 2:Mc 2:Cn 2:Mc 1:Mn 1:Lo 8:Cn 1:Mc 4:Cn 2:Lo
  1:Cn 3:Lo 2:Mn 2:Cn a:Nd 2:Lo 2:Sc 6:No 1:So 1:Sc 1:Lo 1:Po 1:Mn 2:Cn 2:Mn 1:Mc 1:Cn 6:Lo
  4:Cn 2:Lo 2:Cn 16:Lo 1:Cn 7:Lo 1:Cn 2:Lo 1:Cn 2:Lo 1:Cn 2:Lo 2:Cn 1:Mn 1:Cn 3:Mc 2:Mn 4:Cn
  2:Mn 2:Cn 3:Mn 3:Cn 1:Mn 7:Cn 4:Lo 1:Cn 1:Lo 7:Cn a:Nd 2:Mn 3:Lo 1:Mn 1:Po a:Cn 2:Mn 1:Mc
  1:Cn 9:Lo 1:Cn 3:Lo 1:Cn 16:Lo 1:Cn 7:Lo 1:Cn 2:Lo 1:Cn 5:Lo 2:Cn 1:Mn 1:Lo 3:Mc 5:Mn 1:Cn
  2:Mn 1:Mc 1:Cn 2:Mc 1:Mn 2:Cn 1:Lo f:Cn 2:Lo 2:Mn 2:Cn a:Nd 1:Po 1:Sc 7:Cn 1:Lo 6:Mn 1:Cn
  1:Mn 2:Mc 1:Cn 8:Lo 2:Cn 2:Lo 2:Cn 16:Lo 1:Cn 7:Lo 1:Cn 2:Lo 1:Cn 5:Lo 2:Cn 1:Mn 1:Lo 1:Mc
  1:Mn 1:Mc 4:Mn 2:Cn 2:Mc 2:Cn 2:Mc 1:Mn 7:Cn 2:Mn 1:Mc 4:Cn 2:Lo 1:Cn 3:Lo 2:Mn 2:Cn a:Nd
  1:So 1:Lo 6:No a:Cn 1:Mn 1:Lo 1:Cn 6:Lo 3:Cn 3:Lo 1:Cn 4:Lo 3:Cn 2:Lo 1:Cn 1:Lo 1:Cn 2:Lo
  3:Cn 2:Lo 3:Cn 3:Lo 3:Cn c:Lo 4:Cn 2:Mc 1:Mn 2:Mc 3:Cn 3:Mc 1:Cn 3:Mc 1:Mn 2:Cn 1:Lo 6:Cn
  1:Mc e:Cn a:Nd 3:No 6:So 1:Sc 1:So 5:Cn 1:Mn 3:Mc 1:Mn 8:Lo 1:Cn 3:Lo 1:Cn 17:Lo 1:Cn 10:Lo
  2:Cn 1:Mn 1:Lo 3:Mn 4:Mc 1:Cn 3:Mn 1:Cn 4:Mn 7:Cn 2:Mn 1:Cn 3:Lo 2:Cn 1:Lo 2:Cn 2:Lo 2:Mn
  2:Cn a:Nd 7:Cn 1:Po 7:No 1:So 1:Lo 1:Mn 2:Mc 1:Po 8:Lo 1:Cn 3:Lo 1:Cn 17:Lo 1:Cn a:Lo 1:Cn
  5:Lo 2:Cn 1:Mn 1:Lo 1:Mc 1:Mn 5:Mc 1:Cn 1:Mn 2:Mc 1:Cn 2:Mc 2:Mn 7:Cn 2:Mc 6:Cn 2:Lo 1:Cn
  2:Lo 2:Mn 2:Cn a:Nd 1:Cn 2:Lo 1:Mc c:Cn 2:Mn 2:Mc 9:Lo 1:Cn 3:Lo 1:Cn 29:Lo 2:Mn 1:Lo 3:Mc
  4:Mn 1:Cn 3:Mc 1:Cn 3:Mc 1:Mn 1:Lo 1:So 4:Cn 3:Lo 1:Mc 7:No 3:Lo 2:Mn 2:Cn a:Nd 9:No 1:So
  6:Lo 1:Cn 1:Mn 2:Mc 1:Cn 12:Lo 3:Cn 18:Lo 1:Cn 9:Lo 1:Cn 1:Lo 2:Cn 7:Lo 3:Cn 1:Mn 4:Cn 3:Mc
  3:Mn 1:Cn 1:Mn 1:Cn 8:Mc 6:Cn a:Nd 2:Cn 2:Mc 1:Po c:Cn 30:Lo 1:Mn 2:Lo 7:Mn 4:Cn 1:Sc 6:Lo
  1:Lm 8:Mn 1:Po a:Nd 2:Po 25:Cn 2:Lo 1:Cn 1:Lo 1:Cn 5:Lo 1:Cn 18:Lo 1:Cn 1:Lo 1:Cn a:Lo 1:Mn
  2:Lo 9:Mn 1:Lo 2:Cn 5:Lo 1:Cn 1:Lm 1:Cn 7:Mn 1:Cn a:Nd 2:Cn 4:Lo 20:Cn 1:Lo 3:So f:Po 1:So
  1:Po 3:So 2:Mn 6:So a:Nd a:No 1:So 1:Mn 1:So 1:Mn 1:So 1:Mn 1:Ps 1:Pe 1:Ps 1:Pe 2:Mc 8:Lo
  1:Cn 24:Lo 4:Cn e:Mn 1:Mc 5:Mn 1:Po 2:Mn 5:Lo b:Mn 1:Cn 24:Mn 1:Cn 8:So 1:Mn 6:So 1:Cn 2:So
  5:Po 4:So 2:Po 25:Cn 2b:Lo 2:Mc 4:Mn 1:Mc 6:Mn 1:Mc 2:Mn 2:Mc 2:Mn 1:Lo a:Nd 6:Po 6:Lo 2:Mc
  2:Mn 4:Lo 3:Mn 1:Lo 3:Mc 2:Lo 7:Mc 3:Lo 4:Mn d:Lo 1:Mn 2:Mc 2:Mn 6:Mc 1:Mn 1:Lo 1:Mc a:Nd
  3:Mc 1:Mn 2:So 26:Lu 1:Cn 1:Lu 5:Cn 1:Lu 2:Cn 2b:Ll 1:Po 1:Lm 3:Ll 149:Lo 1:Cn 4:Lo 2:Cn
  7:Lo 1:Cn 1:Lo 1:Cn 4:Lo 2:Cn 29:Lo 1:Cn 4:Lo 2:Cn 21:Lo 1:Cn 4:Lo 2:Cn 7:Lo 1:Cn 1:Lo 1:Cn
  4:Lo 2:Cn f:Lo 1:Cn 39:Lo 1:Cn 4:Lo 2:Cn 43:Lo 2:Cn 3:Mn 9:Po 14:No 3:Cn 10:Lo a:So 6:Cn
  56:Lu 2:Cn 6:Ll 2:Cn 1:Pd 26c:Lo 1:So 1:Po 11:Lo 1:Zs 1a:Lo 1:Ps 1:Pe 3:Cn 4b:Lo 3:Po 3:Nl
  8:Lo 7:Cn 12:Lo 3:Mn 1:Mc 9:Cn 13:Lo 2:Mn 1:Mc 2:Po 9:Cn 12:Lo 2:Mn c:Cn d:Lo 1:Cn 3:Lo
  1:Cn 2:Mn c:Cn 34:Lo 2:Mn 1:Mc 7:Mn 8:Mc 1:Mn 2:Mc b:Mn 3:Po 1:Lm 3:Po 1:Sc 1:Lo 1:Mn 2:Cn
  a:Nd 6:Cn a:No 6:Cn 6:Po 1:Pd 4:Po 3:Mn 1:Cf 1:Mn a:Nd 6:Cn 23:Lo 1:Lm 35:Lo 7:Cn 5:Lo 2:Mn
  22:Lo 1:Mn 1:Lo 5:Cn 46:Lo a:Cn 1f:Lo 1:Cn 3:Mn 4:Mc 2:Mn 3:Mc 4:Cn 2:Mc 1:Mn 6:Mc 3:Mn
  4:Cn 1:So 3:Cn 2:Po a:Nd 1e:Lo 2:Cn 5:Lo b:Cn 2c:Lo 4:Cn 1a:Lo 6:Cn a:Nd 1:No 3:Cn 22:So
  17:Lo 2:Mn 2:Mc 1:Mn 2:Cn 2:Po 35:Lo 1:Mc 1:Mn 1:Mc 7:Mn 1:Cn 1:Mn 1:Mc 1:Mn 2:Mc 8:Mn 6:Mc
  a:Mn 2:Cn 1:Mn a:Nd 6:Cn a:Nd 6:Cn 7:Po 1:Lm 6:Po 2:Cn e:Mn 1:Me 10:Mn 31:Cn 4:Mn 1:Mc
  2f:Lo 1:Mn 1:Mc 5:Mn 1:Mc 1:Mn 5:Mc 1:Mn 2:Mc 8:Lo 1:Cn 2:Po a:Nd 7:Po a:So 9:Mn 9:So 3:Po
  2:Mn 1:Mc 1e:Lo 1:Mc 4:Mn 2:Mc 2:Mn 1:Mc 3:Mn 2:Lo a:Nd 2c:Lo 1:Mn 1:Mc 2:Mn 3:Mc 1:Mn 1:Mc
  3:Mn 2:Mc 8:Cn 4:Po 24:Lo 8:Mc 8:Mn 2:Mc 2:Mn 3:Cn 5:Po a:Nd 3:Cn 3:Lo a:Nd 1e:Lo 6:Lm 2:Po
  9:Ll 1:Lu 1:Ll 5:Cn 2b:Lu 2:Cn 3:Lu 8:Po 8:Cn 3:Mn 1:Po d:Mn 1:Mc 7:Mn 4:Lo 1:Mn 6:Lo 1:Mn
  2:Lo 1:Mc 2:Mn 1:Lo 5:Cn 2c:Ll 3f:Lm d:Ll 1:Lm 22:Ll 25:Lm 40:Mn 1:Lu 1:Ll 1:Lu 1:Ll 1:Lu
  1:Ll 1:Lu 1:Ll 1:Lu 1:Ll 1:Lu 1:Ll 1:Lu 1:Ll 1:Lu 1:Ll 1:Lu 1:Ll 1:Lu 1:Ll 1:Lu 1:Ll 1:Lu
  1:Ll 1:Lu 1:Ll 1:Lu 1:Ll 1:Lu 1:Ll 1:Lu 1:Ll 1:Lu 1:Ll 1:Lu 1:Ll 1:Lu 1:Ll 1:Lu 1:Ll 1:Lu
  1:Ll 1:Lu 1:Ll 1:Lu 1:Ll 1:Lu 1:Ll 1:Lu 1:Ll 1:Lu 1:Ll 1:Lu 1:Ll 1:Lu 1:Ll 1:Lu 1:Ll 1:Lu
  1:Ll 1:Lu 1:Ll 1:Lu 1:Ll 1:Lu 1:Ll 1:Lu 1:Ll 1:Lu 1:Ll 1:Lu 1:Ll 1:Lu 1:Ll 1:Lu 1:Ll 1:Lu
  1:Ll 1:Lu 1:Ll 1:Lu 1:Ll 1:Lu 1:Ll 1:Lu 1:Ll 1:Lu 1:Ll 1:Lu 1:Ll 1:Lu 1:Ll 1:Lu 1:Ll 1:Lu
  1:Ll 1:Lu 1:Ll 1:Lu 1:Ll 1:Lu 1:Ll 1:Lu 1:Ll 1:Lu 1:Ll 1:Lu 1:Ll 1:Lu 1:Ll 1:Lu 1:Ll 1:Lu
  1:Ll 1:Lu 1:Ll 1:Lu 1:Ll 1:Lu 1:Ll 1:Lu 1:Ll 1:Lu 1:Ll 1:Lu 1:Ll 1:Lu 1:Ll 1:Lu 1:Ll 1:Lu
  1:Ll 1:Lu 1:Ll 1:Lu 1:Ll 1:Lu 1:Ll 1:Lu 1:Ll 1:Lu 1:Ll 1:Lu 1:Ll 1:Lu 1:Ll 1:Lu 1:Ll 1:Lu
  9:Ll 1:Lu 1:Ll 1:Lu 1:Ll 1:Lu 1:Ll 1:Lu 1:Ll 1:Lu 1:Ll 1:Lu 1:Ll 1:Lu 1:Ll 1:Lu 1:Ll 1:Lu
  1:Ll 1:Lu 1:Ll 1:Lu 1:Ll 1:Lu 1:Ll 1:Lu 1:Ll 1:Lu 1:Ll 1:Lu 1:Ll 1:Lu 1:Ll 1:Lu 1:Ll 1:Lu
  1:Ll 1:Lu 1:Ll 1:Lu 1:Ll 1:Lu 1:Ll 1:Lu 1:Ll 1:Lu 1:Ll 1:Lu 1:Ll 1:Lu 1:Ll 1:Lu 1:Ll 1:Lu
  1:Ll 1:Lu 1:Ll 1:Lu 1:Ll 1:Lu 1:Ll 1:Lu 1:Ll 1:Lu 1:Ll 1:Lu 1:Ll 1:Lu 1:Ll 1:Lu 1:Ll 1:Lu
  1:Ll 1:Lu 1:Ll 1:Lu 1:Ll 1:Lu 1:Ll 1:Lu 1:Ll 1:Lu 1:Ll 1:Lu 1:Ll 1:Lu 1:Ll 1:Lu 1:Ll 1:Lu
  1:Ll 1:Lu 1:Ll 1:Lu 1:Ll 1:Lu 1:Ll 1:Lu 9:Ll 8:Lu 6:Ll 2:Cn 6:Lu 2:Cn 8:Ll 8:Lu 8:Ll 8:Lu
  6:Ll 2:Cn 6:Lu 2:Cn 8:Ll 1:Cn 1:Lu 1:Cn 1:Lu 1:Cn 1:Lu 1:Cn 1:Lu 8:Ll 8:Lu e:Ll 2:Cn 8:Ll
  8:Lt 8:Ll 8:Lt 8:Ll 8:Lt 5:Ll 1:Cn 2:Ll 4:Lu 1:Lt 1:Sk 1:Ll 3:Sk 3:Ll 1:Cn 2:Ll 4:Lu 1:Lt
  3:Sk 4:Ll 2:Cn 2:Ll 4:Lu 1:Cn 3:Sk 8:Ll 5:Lu 3:Sk 2:Cn 3:Ll 1:Cn 2:Ll 4:Lu 1:Lt 2:Sk 1:Cn
  b:Zs 5:Cf 6:Pd 2:Po 1:Pi 1:Pf 1:Ps 2:Pi 1:Pf 1:Ps 1:Pi 8:Po 1:Zl 1:Zp 5:Cf 1:Zs 9:Po 1:Pi
  1:Pf 4:Po 2:Pc 3:Po 1:Sm 1:Ps 1:Pe b:Po 1:Sm 1:Po 1:Pc a:Po 1:Zs 5:Cf 1:Cn a:Cf 1:No 1:Lm
  2:Cn 6:No 3:Sm 1:Ps 1:Pe 1:Lm a:No 3:Sm 1:Ps 1:Pe 1:Cn d:Lm 3:Cn 21:Sc f:Cn d:Mn 4:Me 1:Mn
  3:Me c:Mn f:Cn 2:So 1:Lu 4:So 1:Lu 2:So 1:Ll 3:Lu 2:Ll 3:Lu 1:Ll 1:So 1:Lu 2:So 1:Sm 5:Lu
  6:So 1:Lu 1:So 1:Lu 1:So 1:Lu 1:So 4:Lu 1:So 1:Ll 4:Lu 1:Ll 4:Lo 1:Ll 2:So 2:Ll 2:Lu 5:Sm
  1:Lu 4:Ll 1:So 1:Sm 2:So 1:Ll 1:So 10:No 23:Nl 1:Lu 1:Ll 4:Nl 1:No 2:So 4:Cn 5:Sm 5:So 2:Sm
  4:So 1:Sm 2:So 1:Sm 2:So 1:Sm 7:So 1:Sm 1f:So 2:Sm 2:So 1:Sm 1:So 1:Sm 1f:So 10c:Sm 8:So
  1:Ps 1:Pe 1:Ps 1:Pe 14:So 2:Sm 7:So 1:Ps 1:Pe 51:So 1:Sm 1e:So 19:Sm 28:So 6:Sm 48:So 16:Cn
  b:So 15:Cn 3c:No 4e:So 16:No b7:So 1:Sm 9:So 1:Sm 36:So 8:Sm 6f:So 1:Sm f8:So 1:Ps 1:Pe
  1:Ps 1:Pe 1:Ps 1:Pe 1:Ps 1:Pe 1:Ps 1:Pe 1:Ps 1:Pe 1:Ps 1:Pe 1e:No 2c:So 5:Sm 1:Ps 1:Pe
  1f:Sm 1:Ps 1:Pe 1:Ps 1:Pe 1:Ps 1:Pe 1:Ps 1:Pe 1:Ps 1:Pe 10:Sm 100:So 83:Sm 1:Ps 1:Pe 1:Ps
  1:Pe 1:Ps 1:Pe 1:Ps 1:Pe 1:Ps 1:Pe 1:Ps 1:Pe 1:Ps 1:Pe 1:Ps 1:Pe 1:Ps 1:Pe 1:Ps 1:Pe 1:Ps
  1:Pe 3f:Sm 1:Ps 1:Pe 1:Ps 1:Pe 20:Sm 1:Ps 1:Pe 102:Sm 30:So 15:Sm 2:So 6:Sm 27:So 2:Cn
  20:So 1:Cn 69:So 30:Lu 30:Ll 1:Lu 1:Ll 3:Lu 2:Ll 1:Lu 1:Ll 1:Lu 1:Ll 1:Lu 1:Ll 4:Lu 1:Ll
  1:Lu 2:Ll 1:Lu 6:Ll 2:Lm 3:Lu 1:Ll 1:Lu 1:Ll 1:Lu 1:Ll 1:Lu 1:Ll 1:Lu 1:Ll 1:Lu 1:Ll 1:Lu
  1:Ll 1:Lu 1:Ll 1:Lu 1:Ll 1:Lu 1:Ll 1:Lu 1:Ll 1:Lu 1:Ll 1:Lu 1:Ll 1:Lu 1:Ll 1:Lu 1:Ll 1:Lu
  1:Ll 1:Lu 1:Ll 1:Lu 1:Ll 1:Lu 1:Ll 1:Lu 1:Ll 1:Lu 1:Ll 1:Lu 1:Ll 1:Lu 1:Ll 1:Lu 1:Ll 1:Lu
  1:Ll 1:Lu 1:Ll 1:Lu 1:Ll 1:Lu 1:Ll 1:Lu 1:Ll 1:Lu 1:Ll 1:Lu 1:Ll 1:Lu 1:Ll 1:Lu 1:Ll 1:Lu
  1:Ll 1:Lu 1:Ll 1:Lu 1:Ll 1:Lu 1:Ll 1:Lu 1:Ll 1:Lu 1:Ll 1:Lu 1:Ll 1:Lu 1:Ll 1:Lu 1:Ll 1:Lu
  1:Ll 1:Lu 1:Ll 1:Lu 1:Ll 1:Lu 1:Ll 1:Lu 1:Ll 1:Lu 1:Ll 1:Lu 1:Ll 1:Lu 2:Ll 6:So 1:Lu 1:Ll
  1:Lu 1:Ll 3:Mn 1:Lu 1:Ll 5:Cn 4:Po 1:No 2:Po 26:Ll 1:Cn 1:Ll 5:Cn 1:Ll 2:Cn 38:Lo 7:Cn 1:Lm
  1:Po e:Cn 1:Mn 17:Lo 9:Cn 7:Lo 1:Cn 7:Lo 1:Cn 7:Lo 1:Cn 7:Lo 1:Cn 7:Lo 1:Cn 7:Lo 1:Cn 7:Lo
  1:Cn 7:Lo 1:Cn 20:Mn 2:Po 1:Pi 1:Pf 1:Pi 1:Pf 3:Po 1:Pi 1:Pf 1:Po 1:Pi 1:Pf 9:Po 1:Pd 2:Po
  1:Pd 1:Po 1:Pi 1:Pf 2:Po 1:Pi 1:Pf 1:Ps 1:Pe 1:Ps 1:Pe 1:Ps 1:Pe 1:Ps 1:Pe 5:Po 1:Lm a:Po
  2:Pd 4:Po 1:Pd 1:Po 1:Ps d:Po 2:So 3:Po 1:Ps 1:Pe 1:Ps 1:Pe 1:Ps 1:Pe 1:Ps 1:Pe 1:Pd 22:Cn
  1a:So 1:Cn 59:So c:Cn d6:So 1a:Cn 10:So 1:Zs 3:Po 1:So 1:Lm 1:Lo 1:Nl 1:Ps 1:Pe 1:Ps 1:Pe
  1:Ps 1:Pe 1:Ps 1:Pe 1:Ps 1:Pe 2:So 1:Ps 1:Pe 1:Ps 1:Pe 1:Ps 1:Pe 1:Ps 1:Pe 1:Pd 1:Ps 2:Pe
  1:So 9:Nl 4:Mn 2:Mc 1:Pd 5:Lm 2:So 3:Nl 1:Lm 1:Lo 1:Po 2:So 1:Cn 56:Lo 2:Cn 2:Mn 2:Sk 2:Lm
  1:Lo 1:Pd 5a:Lo 1:Po 3:Lm 1:Lo 5:Cn 2b:Lo 1:Cn 5e:Lo 1:Cn 2:So 4:No a:So 20:Lo 26:So 9:Cn
  1:So 10:Lo 1f:So 1:Cn a:No 1e:So 8:No 1:So f:No 20:So a:No 27:So f:No 140:So 19c0:Lo 40:So
  5215:Lo 1:Lm 477:Lo 3:Cn 37:So 9:Cn 28:Lo 6:Lm 2:Po 10c:Lo 1:Lm 3:Po 10:Lo a:Nd 2:Lo 14:Cn
  1:Lu 1:Ll 1:Lu 1:Ll 1:Lu 1:Ll 1:Lu 1:Ll 1:Lu 1:Ll 1:Lu 1:Ll 1:Lu 1:Ll 1:Lu 1:Ll 1:Lu 1:Ll
  1:Lu 1:Ll 1:Lu 1:Ll 1:Lu 1:Ll 1:Lu 1:Ll 1:Lu 1:Ll 1:Lu 1:Ll 1:Lu 1:Ll 1:Lu 1:Ll 1:Lu 1:Ll
  1:Lu 1:Ll 1:Lu 1:Ll 1:Lu 1:Ll 1:Lu 1:Ll 1:Lu 1:Ll 1:Lo 1:Mn 3:Me 1:Po a:Mn 1:Po 1:Lm 1:Lu
  1:Ll 1:Lu 1:Ll 1:Lu 1:Ll 1:Lu 1:Ll 1:Lu 1:Ll 1:Lu 1:Ll 1:Lu 1:Ll 1:Lu 1:Ll 1:Lu 1:Ll 1:Lu
  1:Ll 1:Lu 1:Ll 1:Lu 1:Ll 1:Lu 1:Ll 1:Lu 1:Ll 2:Lm 2:Mn 46:Lo a:Nl 2:Mn 6:Po 8:Cn 17:Sk 9:Lm
  2:Sk 1:Lu 1:Ll 1:Lu 1:Ll 1:Lu 1:Ll 1:Lu 1:Ll 1:Lu 1:Ll 1:Lu 1:Ll 1:Lu 3:Ll 1:Lu 1:Ll 1:Lu
  1:Ll 1:Lu 1:Ll 1:Lu 1:Ll 1:Lu 1:Ll 1:Lu 1:Ll 1:Lu 1:Ll 1:Lu 1:Ll 1:Lu 1:Ll 1:Lu 1:Ll 1:Lu
  1:Ll 1:Lu 1:Ll 1:Lu 1:Ll 1:Lu 1:Ll 1:Lu 1:Ll 1:Lu 1:Ll 1:Lu 1:Ll 1:Lu 1:Ll 1:Lu 1:Ll 1:Lu
  1:Ll 1:Lu 1:Ll 1:Lu 1:Ll 1:Lu 1:Ll 1:Lu 1:Ll 1:Lu 1:Ll 1:Lu 1:Ll 1:Lu 1:Ll 1:Lu 1:Ll 1:Lu
  1:Ll 1:Lu 1:Ll 1:Lu 1:Ll 1:Lm 8:Ll 1:Lu 1:Ll 1:Lu 1:Ll 2:Lu 1:Ll 1:Lu 1:Ll 1:Lu 1:Ll 1:Lu
  1:Ll 1:Lu 1:Ll 1:Lm 2:Sk 1:Lu 1:Ll 1:Lu 1:Ll 1:Lo 1:Lu 1:Ll 1:Lu 3:Ll 1:Lu 1:Ll 1:Lu 1:Ll
  1:Lu 1:Ll 1:Lu 1:Ll 1:Lu 1:Ll 1:Lu 1:Ll 1:Lu 1:Ll 1:Lu 1:Ll 1:Lu 1:Ll 1:Lu 1:Ll 5:Lu 1:Ll
  5:Lu 1:Ll 1:Lu 1:Ll 1:Lu 1:Ll 1:Lu 1:Ll 1:Lu 1:Ll 1:Lu 1:Ll 1:Lu 1:Ll 1:Lu 1:Ll 4:Lu 1:Ll
  1:Lu 1:Ll 2:Lu 1:Ll 2:Cn 1:Lu 1:Ll 1:Cn 1:Ll 1:Cn 1:Ll 1:Lu 1:Ll 1:Lu 1:Ll 1:Lu 1:Ll 1:Lu
  15:Cn 3:Lm 1:Lu 1:Ll 1:Lo 2:Lm 1:Ll 7:Lo 1:Mn 3:Lo 1:Mn 4:Lo 1:Mn 17:Lo 2:Mc 2:Mn 1:Mc 4:So
  1:Mn 3:Cn 6:No 2:So 1:Sc 1:So 6:Cn 34:Lo 4:Po 8:Cn 2:Mc 32:Lo 10:Mc 2:Mn 8:Cn 2:Po a:Nd
  6:Cn 12:Mn 6:Lo 3:Po 1:Lo 1:Po 2:Lo 1:Mn a:Nd 1c:Lo 8:Mn 2:Po 17:Lo b:Mn 2:Mc b:Cn 1:Po
  1d:Lo 3:Cn 3:Mn 1:Mc 2f:Lo 1:Mn 2:Mc 4:Mn 2:Mc 2:Mn 3:Mc d:Po 1:Cn 1:Lm a:Nd 4:Cn 2:Po 5:Lo
  1:Mn 1:Lm 9:Lo a:Nd 5:Lo 1:Cn 29:Lo 6:Mn 2:Mc 2:Mn 2:Mc 2:Mn 9:Cn 3:Lo 1:Mn 8:Lo 1:Mn 1:Mc
  2:Cn a:Nd 2:Cn 4:Po 10:Lo 1:Lm 6:Lo 3:So 1:Lo 1:Mc 1:Mn 1:Mc 32:Lo 1:Mn 1:Lo 3:Mn 2:Lo 2:Mn
  5:Lo 2:Mn 1:Lo 1:Mn 1:Lo 18:Cn 2:Lo 1:Lm 2:Po b:Lo 1:Mc 2:Mn 2:Mc 2:Po 1:Lo 2:Lm 1:Mc 1:Mn
  a:Cn 6:Lo 2:Cn 6:Lo 2:Cn 6:Lo 9:Cn 7:Lo 1:Cn 7:Lo 1:Cn 2b:Ll 1:Sk 4:Lm 9:Ll 1:Lm 2:Sk 4:Cn
  50:Ll 23:Lo 2:Mc 1:Mn 2:Mc 1:Mn 2:Mc 1:Po 1:Mc 1:Mn 2:Cn a:Nd 6:Cn 2ba4:Lo c:Cn 17:Lo 4:Cn
  31:Lo 4:Cn 800:Cs 1900:Co 16e:Lo 2:Cn 6a:Lo 26:Cn 7:Ll c:Cn 5:Ll 5:Cn 1:Lo 1:Mn a:Lo 1:Sm
  d:Lo 1:Cn 5:Lo 1:Cn 1:Lo 1:Cn 2:Lo 1:Cn 2:Lo 1:Cn 6c:Lo 11:Sk 10:Cn 16b:Lo 1:Pe 1:Ps 10:So
  40:Lo 2:Cn 36:Lo 7:Cn 1:So 20:Cn c:Lo 1:Sc 3:So 10:Mn 7:Po 1:Ps 1:Pe 1:Po 6:Cn 10:Mn 1:Po
  2:Pd 2:Pc 1:Ps 1:Pe 1:Ps 1:Pe 1:Ps 1:Pe 1:Ps 1:Pe 1:Ps 1:Pe 1:Ps 1:Pe 1:Ps 1:Pe 1:Ps 1:Pe
  2:Po 1:Ps 1:Pe 4:Po 3:Pc 3:Po 1:Cn 4:Po 1:Pd 1:Ps 1:Pe 1:Ps 1:Pe 1:Ps 1:Pe 3:Po 1:Sm 1:Pd
  3:Sm 1:Cn 1:Po 1:Sc 2:Po 4:Cn 5:Lo 1:Cn 87:Lo 2:Cn 1:Cf 1:Cn 3:Po 1:Sc 3:Po 1:Ps 1:Pe 1:Po
  1:Sm 1:Po 1:Pd 2:Po a:Nd 2:Po 3:Sm 2:Po 1a:Lu 1:Ps 1:Po 1:Pe 1:Sk 1:Pc 1:Sk 1a:Ll 1:Ps 1:Sm
  1:Pe 1:Sm 1:Ps 1:Pe 1:Po 1:Ps 1:Pe 2:Po a:Lo 1:Lm 2d:Lo 2:Lm 1f:Lo 3:Cn 6:Lo 2:Cn 6:Lo 2:Cn
  6:Lo 2:Cn 3:Lo 3:Cn 2:Sc 1:Sm 1:Sk 1:So 2:Sc 1:Cn 1:So 4:Sm 2:So a:Cn 3:Cf 2:So 2:Cn c:Lo
  1:Cn 1a:Lo 1:Cn 13:Lo 1:Cn 2:Lo 1:Cn f:Lo 2:Cn e:Lo 22:Cn 7b:Lo 5:Cn 3:Po 4:Cn 2d:No 3:Cn
  9:So 35:Nl 4:No 11:So 2:No 3:So 1:Cn d:So 3:Cn 1:So 2f:Cn 2d:So 1:Mn 82:Cn 1d:Lo 3:Cn 31:Lo
  f:Cn 1:Mn 1b:No 4:Cn 20:Lo 4:No 9:Cn 14:Lo 1:Nl 8:Lo 1:Nl 5:Cn 26:Lo 5:Mn 5:Cn 1e:Lo 1:Cn
  1:Po 24:Lo 4:Cn 8:Lo 1:Po 5:Nl 2a:Cn 28:Lu 28:Ll 4e:Lo 2:Cn a:Nd 6:Cn 24:Lu 4:Cn 24:Ll 4:Cn
  28:Lo 8:Cn 34:Lo b:Cn 1:Po b:Lu 1:Cn f:Lu 1:Cn 7:Lu 1:Cn 2:Lu 1:Cn b:Ll 1:Cn f:Ll 1:Cn 7:Ll
  1:Cn 2:Ll 3:Cn 34:Lo c:Cn 137:Lo 9:Cn 16:Lo a:Cn 8:Lo 18:Cn 6:Lm 1:Cn 2a:Lm 1:Cn 9:Lm 45:Cn
  6:Lo 2:Cn 1:Lo 1:Cn 2c:Lo 1:Cn 2:Lo 3:Cn 1:Lo 2:Cn 17:Lo 1:Cn 1:Po 8:No 17:Lo 2:So 7:No
  1f:Lo 8:Cn 9:No 30:Cn 13:Lo 1:Cn 2:Lo 5:Cn 5:No 16:Lo 6:No 3:Cn 1:Po 1a:Lo 5:Cn 1:Po 40:Cn
  38:Lo 4:Cn 2:No 2:Lo 10:No 2:Cn 2e:No 1:Lo 3:Mn 1:Cn 2:Mn 5:Cn 4:Mn 4:Lo 1:Cn 3:Lo 1:Cn
  1d:Lo 2:Cn 3:Mn 4:Cn 1:Mn 9:No 7:Cn 9:Po 7:Cn 1d:Lo 2:No 1:Po 1d:Lo 3:No 20:Cn 8:Lo 1:So
  1c:Lo 2:Mn 4:Cn 5:No 7:Po 9:Cn 36:Lo 3:Cn 7:Po 16:Lo 2:Cn 8:No 13:Lo 5:Cn 8:No 12:Lo 7:Cn
  4:Po c:Cn 7:No 50:Cn 49:Lo 37:Cn 33:Lu d:Cn 33:Ll 7:Cn 6:No 24:Lo 4:Mn 8:Cn a:Nd 6:Cn a:Nd
  4:Lo 1:Lm 1:Lo 16:Lu 3:Cn 5:Mn 1:Pd 1:Lm 16:Ll 8:Cn 2:Sm d0:Cn 1f:No 1:Cn 2a:Lo 1:Cn 2:Mn
  1:Pd 2:Cn 2:Lo 10:Cn 3:Lo 37:Cn 4:Mn 1d:Lo a:No 1:Lo 8:Cn 16:Lo b:Mn 4:No 5:Po 16:Cn 12:Lo
  4:Mn 4:Po 26:Cn 15:Lo 7:No 14:Cn 17:Lo 9:Cn 1:Mc 1:Mn 1:Mc 35:Lo f:Mn 7:Po 4:Cn 14:No a:Nd
  1:Mn 2:Lo 2:Mn 1:Lo 9:Cn 3:Mn 1:Mc 2d:Lo 3:Mc 4:Mn 2:Mc 2:Mn 2:Po 1:Cf 4:Po 1:Mn a:Cn 1:Cf
  2:Cn 19:Lo 7:Cn a:Nd 6:Cn 3:Mn 24:Lo 5:Mn 1:Mc 8:Mn 1:Cn a:Nd 4:Po 1:Lo 2:Mc 1:Lo 8:Cn
  23:Lo 1:Mn 2:Po 1:Lo 9:Cn 2:Mn 1:Mc 30:Lo 3:Mc 9:Mn 2:Mc 4:Lo 4:Po 4:Mn 1:Po 1:Mc 1:Mn a:Nd
  1:Lo 1:Po 1:Lo 3:Po 1:Cn 14:No b:Cn 12:Lo 1:Cn 19:Lo 3:Mc 3:Mn 2:Mc 1:Mn 1:Mc 2:Mn 6:Po
  1:Mn 2:Lo 1:Mn 3e:Cn 7:Lo 1:Cn 1:Lo 1:Cn 4:Lo 1:Cn f:Lo 1:Cn a:Lo 1:Po 6:Cn 2f:Lo 1:Mn 3:Mc
  8:Mn 5:Cn a:Nd 6:Cn 2:Mn 2:Mc 1:Cn 8:Lo 2:Cn 2:Lo 2:Cn 16:Lo 1:Cn 7:Lo 1:Cn 2:Lo 1:Cn 5:Lo
  1:Cn 2:Mn 1:Lo 2:Mc 1:Mn 4:Mc 2:Cn 2:Mc 2:Cn 3:Mc 2:Cn 1:Lo 6:Cn 1:Mc 5:Cn 5:Lo 2:Mc 2:Cn
  7:Mn 3:Cn 5:Mn b:Cn a:Lo 1:Cn 1:Lo 2:Cn 1:Lo 1:Cn 26:Lo 1:Cn 1:Lo 3:Mc 6:Mn 1:Cn 1:Mc 2:Cn
  1:Mc 1:Cn 4:Mc 1:Cn 2:Mc 1:Mn 1:Mc 1:Mn 1:Lo 1:Mn 1:Lo 2:Po 1:Cn 2:Po 8:Cn 2:Mn 1d:Cn 35:Lo
  3:Mc 8:Mn 2:Mc 3:Mn 1:Mc 1:Mn 4:Lo 5:Po a:Nd 2:Po 1:Cn 1:Po 1:Mn 3:Lo 1e:Cn 30:Lo 3:Mc 6:Mn
  1:Mc 1:Mn 4:Mc 2:Mn 1:Mc 2:Mn 2:Lo 1:Po 1:Lo 8:Cn a:Nd a6:Cn 2f:Lo 3:Mc 4:Mn 2:Cn 4:Mc 2:Mn
  1:Mc 2:Mn 17:Po 4:Lo 2:Mn 22:Cn 30:Lo 3:Mc 8:Mn 2:Mc 1:Mn 1:Mc 2:Mn 3:Po 1:Lo b:Cn a:Nd
  6:Cn d:Po 13:Cn 2b:Lo 1:Mn 1:Mc 1:Mn 2:Mc 6:Mn 1:Mc 1:Mn 1:Lo 1:Po 6:Cn a:Nd 6:Cn 14:Nd
  1c:Cn 1b:Lo 2:Cn 1:Mn 1:Mc 1:Mn 2:Mc 4:Mn 1:Mc 5:Mn 4:Cn a:Nd 2:No 3:Po 1:So 7:Lo b9:Cn
  2c:Lo 3:Mc 9:Mn 1:Mc 2:Mn 1:Po 64:Cn 20:Lu 20:Ll a:Nd 9:No c:Cn 8:Lo 2:Cn 1:Lo 2:Cn 8:Lo
  1:Cn 2:Lo 1:Cn 18:Lo 6:Mc 1:Cn 2:Mc 2:Cn 2:Mn 1:Mc 1:Mn 1:Lo 1:Mc 1:Lo 1:Mc 1:Mn 3:Po 9:Cn
  a:Nd 46:Cn 8:Lo 2:Cn 27:Lo 3:Mc 4:Mn 2:Cn 2:Mn 4:Mc 1:Mn 1:Lo 1:Po 1:Lo 1:Mc 1b:Cn 1:Lo
  a:Mn 28:Lo 6:Mn 1:Mc 1:Lo 4:Mn 8:Po 1:Mn 8:Cn 1:Lo 6:Mn 2:Mc 3:Mn 2e:Lo d:Mn 1:Mc 2:Mn 3:Po
  1:Lo 5:Po d:Cn 49:Lo 7:Cn a:Po b6:Cn 21:Lo 1:Po e:Cn a:Nd 6:Cn 9:Lo 1:Cn 25:Lo 1:Mc 7:Mn
  1:Cn 6:Mn 1:Mc 1:Mn 1:Lo 5:Po a:Cn a:Nd 13:No 3:Cn 2:Po 1e:Lo 2:Cn 16:Mn 1:Cn 1:Mc 7:Mn
  1:Mc 2:Mn 1:Mc 2:Mn 49:Cn 7:Lo 1:Cn 2:Lo 1:Cn 26:Lo 6:Mn 3:Cn 1:Mn 1:Cn 2:Mn 1:Cn 7:Mn 1:Lo
  1:Mn 8:Cn a:Nd 6:Cn 6:Lo 1:Cn 2:Lo 1:Cn 20:Lo 5:Mc 1:Cn 2:Mn 1:Cn 2:Mc 1:Mn 1:Mc 1:Mn 1:Lo
  7:Cn a:Nd 136:Cn 13:Lo 2:Mn 2:Mc 2:Po 7:Cn 2:Mn 1:Lo 1:Mc d:Lo 1:Cn 22:Lo 2:Mc 5:Mn 3:Cn
  2:Mc 1:Mn 1:Mc 1:Mn d:Po a:Nd 1:Mn 55:Cn 1:Lo f:Cn 15:No 8:So 4:Sc 11:So d:Cn 1:Po 39a:Lo
  66:Cn 6f:Nl 1:Cn 5:Po b:Cn c4:Lo a4c:Cn 61:Lo 2:Po d:Cn 430:Lo 10:Cf 1:Mn 6:Lo f:Mn a:Cn
  f9b:Lo 5:Cn 247:Lo 1ab9:Cn 1e:Lo c:Mn 3:Mc 3:Mn a:Nd 6c6:Cn 239:Lo 7:Cn 1f:Lo 1:Cn a:Nd
  4:Cn 2:Po 4f:Lo 1:Cn a:Nd 6:Cn 1e:Lo 2:Cn 5:Mn 1:Po a:Cn 30:Lo 7:Mn 5:Po 4:So 4:Lm 1:Po
  1:So a:Cn a:Nd 1:Cn 7:No 1:Cn 15:Lo 5:Cn 13:Lo 1b0:Cn 3:Lm 28:Lo 2:Lm 3:Po a:Nd c6:Cn 20:Lu
  20:Ll 17:No 4:Po 65:Cn 4b:Lo 4:Cn 1:Mn 1:Lo 37:Mc 7:Cn 4:Mn d:Lm 40:Cn 2:Lm 1:Po 1:Lm 1:Mn
  b:Cn 2:Mc e:Cn 17f8:Lo 8:Cn 4d6:Lo 29:Cn a:Lo 22e7:Cn 4:Lm 1:Cn 7:Lm 1:Cn 2:Lm 1:Cn 123:Lo
  f:Cn 1:Lo 1d:Cn 3:Lo 2:Cn 1:Lo e:Cn 4:Lo 8:Cn 18c:Lo 904:Cn 6b:Lo 5:Cn d:Lo 3:Cn 9:Lo 7:Cn
  a:Lo 2:Cn 1:So 2:Mn 1:Po 4:Cf f5c:Cn f0:So a:Nd 6:Cn 1b4:So 4c:Cn 2e:Mn 2:Cn 17:Mn 9:Cn
  74:So 3c:Cn f6:So a:Cn 27:So 2:Cn 3c:So 2:Mc 3:Mn 3:So 6:Mc 8:Cf 8:Mn 2:So 7:Mn 1e:So 4:Mn
  3d:So 15:Cn 42:So 3:Mn 1:So 7a:Cn 14:No c:Cn 14:No c:Cn 57:So 9:Cn 19:No 87:Cn 1a:Lu 1a:Ll
  1a:Lu 7:Ll 1:Cn 12:Ll 1a:Lu 1a:Ll 1:Lu 1:Cn 2:Lu 2:Cn 1:Lu 2:Cn 2:Lu 2:Cn 4:Lu 1:Cn 8:Lu
  4:Ll 1:Cn 1:Ll 1:Cn 7:Ll 1:Cn b:Ll 1a:Lu 1a:Ll 2:Lu 1:Cn 4:Lu 2:Cn 8:Lu 1:Cn 7:Lu 1:Cn
  1a:Ll 2:Lu 1:Cn 4:Lu 1:Cn 5:Lu 1:Cn 1:Lu 3:Cn 7:Lu 1:Cn 1a:Ll 1a:Lu 1a:Ll 1a:Lu 1a:Ll 1a:Lu
  1a:Ll 1a:Lu 1a:Ll 1a:Lu 1a:Ll 1a:Lu 1c:Ll 2:Cn 19:Lu 1:Sm 19:Ll 1:Sm 6:Ll 19:Lu 1:Sm 19:Ll
  1:Sm 6:Ll 19:Lu 1:Sm 19:Ll 1:Sm 6:Ll 19:Lu 1:Sm 19:Ll 1:Sm 6:Ll 19:Lu 1:Sm 19:Ll 1:Sm 6:Ll
  1:Lu 1:Ll 2:Cn 32:Nd 200:So 37:Mn 4:So 32:Mn 8:So 1:Mn e:So 1:Mn 2:So 5:Po f:Cn 5:Mn 1:Cn
  f:Mn 450:Cn a:Ll 1:Lo 14:Ll 6:Cn 6:Ll d5:Cn 7:Mn 1:Cn 11:Mn 2:Cn 7:Mn 1:Cn 2:Mn 1:Cn 5:Mn
  5:Cn 3e:Lm 21:Cn 1:Mn 70:Cn 2d:Lo 3:Cn 7:Mn 7:Lm 2:Cn a:Nd 4:Cn 1:Lo 1:So 140:Cn 1e:Lo 1:Mn
  11:Cn 2c:Lo 4:Mn a:Nd 5:Cn 1:Sc 1d0:Cn 1b:Lo 1:Lm 4:Mn a:Nd d6:Cn 1e:Lo 2:Mn 1:Lo a:Nd 4:Cn
  1:Po 1e0:Cn 7:Lo 1:Cn 4:Lo 1:Cn 2:Lo 1:Cn f:Lo 1:Cn c5:Lo 2:Cn 9:No 7:Mn 29:Cn 22:Lu 22:Ll
  7:Mn 1:Lm 4:Cn a:Nd 4:Cn 2:Po 311:Cn 3b:No 1:So 3:No 1:Sc 4:No 4c:Cn 2d:No 1:So f:No c2:Cn
  4:Lo 1:Cn 1b:Lo 1:Cn 2:Lo 1:Cn 1:Lo 2:Cn 1:Lo 1:Cn a:Lo 1:Cn 4:Lo 1:Cn 1:Lo 1:Cn 1:Lo 6:Cn
  1:Lo 4:Cn 1:Lo 1:Cn 1:Lo 1:Cn 1:Lo 1:Cn 3:Lo 1:Cn 2:Lo 1:Cn 1:Lo 2:Cn 1:Lo 1:Cn 1:Lo 1:Cn
  1:Lo 1:Cn 1:Lo 1:Cn 1:Lo 1:Cn 2:Lo 1:Cn 1:Lo 2:Cn 4:Lo 1:Cn 7:Lo 1:Cn 4:Lo 1:Cn 4:Lo 1:Cn
  1:Lo 1:Cn a:Lo 1:Cn 11:Lo 5:Cn 3:Lo 1:Cn 5:Lo 1:Cn 11:Lo 34:Cn 2:Sm 10e:Cn 2c:So 4:Cn 64:So
  c:Cn f:So 2:Cn f:So 1:Cn f:So 1:Cn 25:So a:Cn d:No a1:So 38:Cn 1d:So d:Cn 2c:So 4:Cn 9:So
  7:Cn 2:So e:Cn 6:So 9a:Cn fb:So 5:Sk 2d8:So 4:Cn 11:So 3:Cn d:So 3:Cn 77:So 4:Cn 5f:So 6:Cn
  c:So 4:Cn 1:So f:Cn c:So 4:Cn 38:So 8:Cn a:So 6:Cn 28:So 8:Cn 1e:So 2:Cn c:So 4:Cn 2:So
  3e:Cn 154:So c:Cn e:So 2:Cn d:So 3:Cn a:So 5:Cn 38:So 7:Cn f:So 2:Cn b:So 6:Cn 9:So 7:Cn
  93:So 1:Cn 5c:So a:Nd 406:Cn a6e0:Lo 20:Cn 103a:Lo 6:Cn de:Lo 2:Cn 1682:Lo e:Cn 1d31:Lo
  f:Cn 26e:Lo 9a2:Cn 21e:Lo 5e2:Cn 134b:Lo 5:Cn 1060:Lo adc51:Cn 1:Cf 1e:Cn 60:Cf 80:Cn f0:Mn
  fe10:Cn fffe:Co 2:Cn fffe:Co 2:Cn"

/-- The code points of the given categories. -/
def chars (codes : List String) : CharSet := Table.select table codes.contains

def letterCodes : List String := ["Lu", "Ll", "Lt", "Lm", "Lo"]

def markCodes : List String := ["Mn", "Mc", "Me"]

def numberCodes : List String := ["Nd", "Nl", "No"]

/-- Names of the categories and of their groups, each with the codes it stands
for. Surrogates are no characters and have no name of their own. -/
def names : List (List String × List String) :=
  [(["c", "other"], ["Cc", "Cf", "Cn", "Co", "Cs"]),
   (["cc", "control", "cntrl"], ["Cc"]),
   (["cf", "format"], ["Cf"]),
   (["cn", "unassigned"], ["Cn"]),
   (["co", "privateuse"], ["Co"]),
   (["l", "letter"], letterCodes),
   (["lc", "casedletter"], ["Lu", "Ll", "Lt"]),
   (["ll", "lowercaseletter"], ["Ll"]),
   (["lm", "modifierletter"], ["Lm"]),
   (["lo", "otherletter"], ["Lo"]),
   (["lt", "titlecaseletter"], ["Lt"]),
   (["lu", "uppercaseletter"], ["Lu"]),
   (["m", "mark", "combiningmark"], markCodes),
   (["mc", "spacingmark"], ["Mc"]),
   (["me", "enclosingmark"], ["Me"]),
   (["mn", "nonspacingmark"], ["Mn"]),
   (["n", "number"], numberCodes),
   (["nd", "decimalnumber", "digit"], ["Nd"]),
   (["nl", "letternumber"], ["Nl"]),
   (["no", "othernumber"], ["No"]),
   (["p", "punctuation", "punct"], ["Pc", "Pd", "Ps", "Pe", "Pi", "Pf", "Po"]),
   (["pc", "connectorpunctuation"], ["Pc"]),
   (["pd", "dashpunctuation"], ["Pd"]),
   (["pe", "closepunctuation"], ["Pe"]),
   (["pf", "finalpunctuation"], ["Pf"]),
   (["pi", "initialpunctuation"], ["Pi"]),
   (["po", "otherpunctuation"], ["Po"]),
   (["ps", "openpunctuation"], ["Ps"]),
   (["s", "symbol"], ["Sm", "Sc", "Sk", "So"]),
   (["sc", "currencysymbol"], ["Sc"]),
   (["sk", "modifiersymbol"], ["Sk"]),
   (["sm", "mathsymbol"], ["Sm"]),
   (["so", "othersymbol"], ["So"]),
   (["z", "separator"], ["Zs", "Zl", "Zp"]),
   (["zl", "lineseparator"], ["Zl"]),
   (["zp", "paragraphseparator"], ["Zp"]),
   (["zs", "spaceseparator"], ["Zs"])]

/-- A set by the name of a category or group, or by one of the three names
that go with them: every code point, the ASCII ones, and the assigned ones. -/
def named? (name : String) : Option CharSet :=
  if name = "any" then some ⟨[(0, CharSet.lastCode)]⟩
  else if name = "ascii" then some ⟨[(0, 0x7f)]⟩
  else if name = "assigned" then some (chars ["Cn"]).complement
  else (names.find? (·.1.contains name)).map fun entry => chars entry.2

end RecordValidation.Category
