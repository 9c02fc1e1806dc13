import ApiCompiler.Text.Literal

/-!
# Single-byte character sets

Tables of the character sets in which each byte stands for one character. A table lists the
characters by four hexadecimal digits each: those of all bytes, or those of the upper half where the
lower half is ASCII. Bytes that stand for nothing have the replacement character.
-/

namespace ApiCompiler.Charset

/-- A character set with one byte to a character. -/
structure SingleByte where
  /-- The names of the set, in small letters with underscores. -/
  names : List String
  /-- The characters of the bytes, line by line. -/
  table : List String

/-- The single-byte character sets. -/
def singleByteSets : List SingleByte :=
  [⟨["cp037", "037", "csibm037", "ebcdic_cp_ca", "ebcdic_cp_nl", "ebcdic_cp_us",
      "ebcdic_cp_wt", "ibm037", "ibm039"],
    ["0000000100020003009c00090086007f0097008d008e000b000c000d000e000f0010001100120013009d0085",
     "00080087001800190092008f001c001d001e001f00800081008200830084000a0017001b00880089008a008b",
     "008c0005000600070090009100160093009400950096000400980099009a009b00140015009e001a002000a0",
     "00e200e400e000e100e300e500e700f100a2002e003c0028002b007c002600e900ea00eb00e800ed00ee00ef",
     "00ec00df00210024002a0029003b00ac002d002f00c200c400c000c100c300c500c700d100a6002c0025005f",
     "003e003f00f800c900ca00cb00c800cd00ce00cf00cc0060003a002300400027003d002200d8006100620063",
     "00640065006600670068006900ab00bb00f000fd00fe00b100b0006a006b006c006d006e006f007000710072",
     "00aa00ba00e600b800c600a400b5007e0073007400750076007700780079007a00a100bf00d000dd00de00ae",
     "005e00a300a500b700a900a700b600bc00bd00be005b005d00af00a800b400d7007b00410042004300440045",
     "004600470048004900ad00f400f600f200f300f5007d004a004b004c004d004e004f00500051005200b900fb",
     "00fc00f900fa00ff005c00f70053005400550056005700580059005a00b200d400d600d200d300d500300031",
     "0032003300340035003600370038003900b300db00dc00d900da009f"]⟩,
   ⟨["cp1006"],
    ["0080008100820083008400850086008700880089008a008b008c008d008e008f009000910092009300940095",
     "0096009700980099009a009b009c009d009e009f00a006f006f106f206f306f406f506f606f706f806f9060c",
     "061b00ad061ffe81fe8dfe8efe8efe8ffe91fb56fb58fe93fe95fe97fb66fb68fe99fe9bfe9dfe9ffb7afb7c",
     "fea1fea3fea5fea7fea9fb84feabfeadfb8cfeaffb8afeb1feb3feb5feb7feb9febbfebdfebffec1fec5fec9",
     "fecafecbfeccfecdfecefecffed0fed1fed3fed5fed7fed9fedbfb92fb94feddfedffee0fee1fee3fb9efee5",
     "fee7fe85feedfba6fba8fba9fbaafe80fe89fe8afe8bfef1fef2fef3fbb0fbaefe7cfe7d"]⟩,
   ⟨["cp1026", "1026", "csibm1026", "ibm1026"],
    ["0000000100020003009c00090086007f0097008d008e000b000c000d000e000f0010001100120013009d0085",
     "00080087001800190092008f001c001d001e001f00800081008200830084000a0017001b00880089008a008b",
     "008c0005000600070090009100160093009400950096000400980099009a009b00140015009e001a002000a0",
     "00e200e400e000e100e300e5007b00f100c7002e003c0028002b0021002600e900ea00eb00e800ed00ee00ef",
     "00ec00df011e0130002a0029003b005e002d002f00c200c400c000c100c300c5005b00d1015f002c0025005f",
     "003e003f00f800c900ca00cb00c800cd00ce00cf00cc0131003a00d6015e0027003d00dc00d8006100620063",
     "00640065006600670068006900ab00bb007d006000a600b100b0006a006b006c006d006e006f007000710072",
     "00aa00ba00e600b800c600a400b500f60073007400750076007700780079007a00a100bf005d0024004000ae",
     "00a200a300a500b700a900a700b600bc00bd00be00ac007c00af00a800b400d700e700410042004300440045",
     "004600470048004900ad00f4007e00f200f300f5011f004a004b004c004d004e004f00500051005200b900fb",
     "005c00f900fa00ff00fc00f70053005400550056005700580059005a00b200d4002300d200d300d500300031",
     "0032003300340035003600370038003900b300db002200d900da009f"]⟩,
   ⟨["cp1125", "1125", "cp866u", "ibm1125", "ruscii"],
    ["0410041104120413041404150416041704180419041a041b041c041d041e041f042004210422042304240425",
     "0426042704280429042a042b042c042d042e042f0430043104320433043404350436043704380439043a043b",
     "043c043d043e043f259125922593250225242561256225562555256325512557255d255c255b251025142534",
     "252c251c2500253c255e255f255a25542569256625602550256c25672568256425652559255825522553256b",
     "256a2518250c25882584258c259025800440044104420443044404450446044704480449044a044b044c044d",
     "044e044f040104510490049104040454040604560407045700b7221a211600a425a000a0"]⟩,
   ⟨["cp1140", "1140", "ibm1140"],
    ["0000000100020003009c00090086007f0097008d008e000b000c000d000e000f0010001100120013009d0085",
     "00080087001800190092008f001c001d001e001f00800081008200830084000a0017001b00880089008a008b",
     "008c0005000600070090009100160093009400950096000400980099009a009b00140015009e001a002000a0",
     "00e200e400e000e100e300e500e700f100a2002e003c0028002b007c002600e900ea00eb00e800ed00ee00ef",
     "00ec00df00210024002a0029003b00ac002d002f00c200c400c000c100c300c500c700d100a6002c0025005f",
     "003e003f00f800c900ca00cb00c800cd00ce00cf00cc0060003a002300400027003d002200d8006100620063",
     "00640065006600670068006900ab00bb00f000fd00fe00b100b0006a006b006c006d006e006f007000710072",
     "00aa00ba00e600b800c620ac00b5007e0073007400750076007700780079007a00a100bf00d000dd00de00ae",
     "005e00a300a500b700a900a700b600bc00bd00be005b005d00af00a800b400d7007b00410042004300440045",
     "004600470048004900ad00f400f600f200f300f5007d004a004b004c004d004e004f00500051005200b900fb",
     "00fc00f900fa00ff005c00f70053005400550056005700580059005a00b200d400d600d200d300d500300031",
     "0032003300340035003600370038003900b300db00dc00d900da009f"]⟩,
   ⟨["cp1250", "1250", "windows_1250"],
    ["20acfffd201afffd201e202620202021fffd203001602039015a0164017d0179fffd20182019201c201d2022",
     "20132014fffd21220161203a015b0165017e017a00a002c702d8014100a4010400a600a700a800a9015e00ab",
     "00ac00ad00ae017b00b000b102db014200b400b500b600b700b80105015f00bb013d02dd013e017c015400c1",
     "00c2010200c40139010600c7010c00c9011800cb011a00cd00ce010e01100143014700d300d4015000d600d7",
     "0158016e00da017000dc00dd016200df015500e100e2010300e4013a010700e7010d00e9011900eb011b00ed",
     "00ee010f01110144014800f300f4015100f600f70159016f00fa017100fc00fd016302d9"]⟩,
   ⟨["cp1251", "1251", "windows_1251"],
    ["04020403201a0453201e20262020202120ac203004092039040a040c040b040f045220182019201c201d2022",
     "20132014fffd21220459203a045a045c045b045f00a0040e045e040800a4049000a600a7040100a9040400ab",
     "00ac00ad00ae040700b000b104060456049100b500b600b704512116045400bb045804050455045704100411",
     "04120413041404150416041704180419041a041b041c041d041e041f04200421042204230424042504260427",
     "04280429042a042b042c042d042e042f0430043104320433043404350436043704380439043a043b043c043d",
     "043e043f0440044104420443044404450446044704480449044a044b044c044d044e044f"]⟩,
   ⟨["cp1252", "1252", "windows_1252"],
    ["20acfffd201a0192201e20262020202102c62030016020390152fffd017dfffdfffd20182019201c201d2022",
     "2013201402dc21220161203a0153fffd017e017800a000a100a200a300a400a500a600a700a800a900aa00ab",
     "00ac00ad00ae00af00b000b100b200b300b400b500b600b700b800b900ba00bb00bc00bd00be00bf00c000c1",
     "00c200c300c400c500c600c700c800c900ca00cb00cc00cd00ce00cf00d000d100d200d300d400d500d600d7",
     "00d800d900da00db00dc00dd00de00df00e000e100e200e300e400e500e600e700e800e900ea00eb00ec00ed",
     "00ee00ef00f000f100f200f300f400f500f600f700f800f900fa00fb00fc00fd00fe00ff"]⟩,
   ⟨["cp1253", "1253", "windows_1253"],
    ["20acfffd201a0192201e202620202021fffd2030fffd2039fffdfffdfffdfffdfffd20182019201c201d2022",
     "20132014fffd2122fffd203afffdfffdfffdfffd00a00385038600a300a400a500a600a700a800a9fffd00ab",
     "00ac00ad00ae201500b000b100b200b3038400b500b600b703880389038a00bb038c00bd038e038f03900391",
     "03920393039403950396039703980399039a039b039c039d039e039f03a003a1fffd03a303a403a503a603a7",
     "03a803a903aa03ab03ac03ad03ae03af03b003b103b203b303b403b503b603b703b803b903ba03bb03bc03bd",
     "03be03bf03c003c103c203c303c403c503c603c703c803c903ca03cb03cc03cd03cefffd"]⟩,
   ⟨["cp1254", "1254", "windows_1254"],
    ["20acfffd201a0192201e20262020202102c62030016020390152fffdfffdfffdfffd20182019201c201d2022",
     "2013201402dc21220161203a0153fffdfffd017800a000a100a200a300a400a500a600a700a800a900aa00ab",
     "00ac00ad00ae00af00b000b100b200b300b400b500b600b700b800b900ba00bb00bc00bd00be00bf00c000c1",
     "00c200c300c400c500c600c700c800c900ca00cb00cc00cd00ce00cf011e00d100d200d300d400d500d600d7",
     "00d800d900da00db00dc0130015e00df00e000e100e200e300e400e500e600e700e800e900ea00eb00ec00ed",
     "00ee00ef011f00f100f200f300f400f500f600f700f800f900fa00fb00fc0131015f00ff"]⟩,
   ⟨["cp1255", "1255", "windows_1255"],
    ["20acfffd201a0192201e20262020202102c62030fffd2039fffdfffdfffdfffdfffd20182019201c201d2022",
     "2013201402dc2122fffd203afffdfffdfffdfffd00a000a100a200a320aa00a500a600a700a800a900d700ab",
     "00ac00ad00ae00af00b000b100b200b300b400b500b600b700b800b900f700bb00bc00bd00be00bf05b005b1",
     "05b205b305b405b505b605b705b805b9fffd05bb05bc05bd05be05bf05c005c105c205c305f005f105f205f3",
     "05f4fffdfffdfffdfffdfffdfffdfffd05d005d105d205d305d405d505d605d705d805d905da05db05dc05dd",
     "05de05df05e005e105e205e305e405e505e605e705e805e905eafffdfffd200e200ffffd"]⟩,
   ⟨["cp1256", "1256", "windows_1256"],
    ["20ac067e201a0192201e20262020202102c6203006792039015206860698068806af20182019201c201d2022",
     "2013201406a921220691203a0153200c200d06ba00a0060c00a200a300a400a500a600a700a800a906be00ab",
     "00ac00ad00ae00af00b000b100b200b300b400b500b600b700b800b9061b00bb00bc00bd00be061f06c10621",
     "06220623062406250626062706280629062a062b062c062d062e062f063006310632063306340635063600d7",
     "063706380639063a064006410642064300e0064400e2064506460647064800e700e800e900ea00eb0649064a",
     "00ee00ef064b064c064d064e00f4064f065000f7065100f9065200fb00fc200e200f06d2"]⟩,
   ⟨["cp1257", "1257", "windows_1257"],
    ["20acfffd201afffd201e202620202021fffd2030fffd2039fffd00a802c700b8fffd20182019201c201d2022",
     "20132014fffd2122fffd203afffd00af02dbfffd00a0fffd00a200a300a4fffd00a600a700d800a9015600ab",
     "00ac00ad00ae00c600b000b100b200b300b400b500b600b700f800b9015700bb00bc00bd00be00e60104012e",
     "0100010600c400c501180112010c00c90179011601220136012a013b01600143014500d3014c00d500d600d7",
     "01720141015a016a00dc017b017d00df0105012f0101010700e400e501190113010d00e9017a011701230137",
     "012b013c01610144014600f3014d00f500f600f701730142015b016b00fc017c017e02d9"]⟩,
   ⟨["cp1258", "1258", "windows_1258"],
    ["20acfffd201a0192201e20262020202102c62030fffd20390152fffdfffdfffdfffd20182019201c201d2022",
     "2013201402dc2122fffd203a0153fffdfffd017800a000a100a200a300a400a500a600a700a800a900aa00ab",
     "00ac00ad00ae00af00b000b100b200b300b400b500b600b700b800b900ba00bb00bc00bd00be00bf00c000c1",
     "00c2010200c400c500c600c700c800c900ca00cb030000cd00ce00cf011000d1030900d300d401a000d600d7",
     "00d800d900da00db00dc01af030300df00e000e100e2010300e400e500e600e700e800e900ea00eb030100ed",
     "00ee00ef011100f1032300f300f401a100f600f700f800f900fa00fb00fc01b020ab00ff"]⟩,
   ⟨["cp273", "273", "csibm273", "ibm273"],
    ["0000000100020003009c00090086007f0097008d008e000b000c000d000e000f0010001100120013009d0085",
     "00080087001800190092008f001c001d001e001f00800081008200830084000a0017001b00880089008a008b",
     "008c0005000600070090009100160093009400950096000400980099009a009b00140015009e001a002000a0",
     "00e2007b00e000e100e300e500e700f100c4002e003c0028002b0021002600e900ea00eb00e800ed00ee00ef",
     "00ec007e00dc0024002a0029003b005e002d002f00c2005b00c000c100c300c500c700d100f6002c0025005f",
     "003e003f00f800c900ca00cb00c800cd00ce00cf00cc0060003a002300a70027003d002200d8006100620063",
     "00640065006600670068006900ab00bb00f000fd00fe00b100b0006a006b006c006d006e006f007000710072",
     "00aa00ba00e600b800c600a400b500df0073007400750076007700780079007a00a100bf00d000dd00de00ae",
     "00a200a300a500b700a9004000b600bc00bd00be00ac007c203e00a800b400d700e400410042004300440045",
     "004600470048004900ad00f400a600f200f300f500fc004a004b004c004d004e004f00500051005200b900fb",
     "007d00f900fa00ff00d600f70053005400550056005700580059005a00b200d4005c00d200d300d500300031",
     "0032003300340035003600370038003900b300db005d00d900da009f"]⟩,
   ⟨["cp424", "424", "csibm424", "ebcdic_cp_he", "ibm424"],
    ["0000000100020003009c00090086007f0097008d008e000b000c000d000e000f0010001100120013009d0085",
     "00080087001800190092008f001c001d001e001f00800081008200830084000a0017001b00880089008a008b",
     "008c0005000600070090009100160093009400950096000400980099009a009b00140015009e001a002005d0",
     "05d105d205d305d405d505d605d705d800a2002e003c0028002b007c002605d905da05db05dc05dd05de05df",
     "05e005e100210024002a0029003b00ac002d002f05e205e305e405e505e605e705e805e900a6002c0025005f",
     "003e003ffffd05eafffdfffd00a0fffdfffdfffd20170060003a002300400027003d0022fffd006100620063",
     "00640065006600670068006900ab00bbfffdfffdfffd00b100b0006a006b006c006d006e006f007000710072",
     "fffdfffdfffd00b8fffd00a400b5007e0073007400750076007700780079007afffdfffdfffdfffdfffd00ae",
     "005e00a300a500b700a900a700b600bc00bd00be005b005d00af00a800b400d7007b00410042004300440045",
     "004600470048004900adfffdfffdfffdfffdfffd007d004a004b004c004d004e004f00500051005200b9fffd",
     "fffdfffdfffdfffd005c00f70053005400550056005700580059005a00b2fffdfffdfffdfffdfffd00300031",
     "0032003300340035003600370038003900b3fffdfffdfffdfffd009f"]⟩,
   ⟨["cp437", "437", "cspc8codepage437", "ibm437"],
    ["00c700fc00e900e200e400e000e500e700ea00eb00e800ef00ee00ec00c400c500c900e600c600f400f600f2",
     "00fb00f900ff00d600dc00a200a300a520a7019200e100ed00f300fa00f100d100aa00ba00bf231000ac00bd",
     "00bc00a100ab00bb259125922593250225242561256225562555256325512557255d255c255b251025142534",
     "252c251c2500253c255e255f255a25542569256625602550256c25672568256425652559255825522553256b",
     "256a2518250c25882584258c2590258003b100df039303c003a303c300b503c403a6039803a903b4221e03c6",
     "03b52229226100b1226522642320232100f7224800b0221900b7221a207f00b225a000a0"]⟩,
   ⟨["cp500", "500", "csibm500", "ebcdic_cp_be", "ebcdic_cp_ch", "ibm500"],
    ["0000000100020003009c00090086007f0097008d008e000b000c000d000e000f0010001100120013009d0085",
     "00080087001800190092008f001c001d001e001f00800081008200830084000a0017001b00880089008a008b",
     "008c0005000600070090009100160093009400950096000400980099009a009b00140015009e001a002000a0",
     "00e200e400e000e100e300e500e700f1005b002e003c0028002b0021002600e900ea00eb00e800ed00ee00ef",
     "00ec00df005d0024002a0029003b005e002d002f00c200c400c000c100c300c500c700d100a6002c0025005f",
     "003e003f00f800c900ca00cb00c800cd00ce00cf00cc0060003a002300400027003d002200d8006100620063",
     "00640065006600670068006900ab00bb00f000fd00fe00b100b0006a006b006c006d006e006f007000710072",
     "00aa00ba00e600b800c600a400b5007e0073007400750076007700780079007a00a100bf00d000dd00de00ae",
     "00a200a300a500b700a900a700b600bc00bd00be00ac007c00af00a800b400d7007b00410042004300440045",
     "004600470048004900ad00f400f600f200f300f5007d004a004b004c004d004e004f00500051005200b900fb",
     "00fc00f900fa00ff005c00f70053005400550056005700580059005a00b200d400d600d200d300d500300031",
     "0032003300340035003600370038003900b300db00dc00d900da009f"]⟩,
   ⟨["cp720"],
    ["0080008100e900e2008400e0008600e700ea00eb00e800ef00ee008d008e008f00900651065200f400a40640",
     "00fb00f9062106220623062400a306250626062706280629062a062b062c062d062e062f0630063106320633",
     "0634063500ab00bb259125922593250225242561256225562555256325512557255d255c255b251025142534",
     "252c251c2500253c255e255f255a25542569256625602550256c25672568256425652559255825522553256b",
     "256a2518250c25882584258c259025800636063706380639063a064100b50642064306440645064606470648",
     "0649064a2261064b064c064d064e064f0650224800b0221900b7221a207f00b225a000a0"]⟩,
   ⟨["cp737"],
    ["039103920393039403950396039703980399039a039b039c039d039e039f03a003a103a303a403a503a603a7",
     "03a803a903b103b203b303b403b503b603b703b803b903ba03bb03bc03bd03be03bf03c003c103c303c203c4",
     "03c503c603c703c8259125922593250225242561256225562555256325512557255d255c255b251025142534",
     "252c251c2500253c255e255f255a25542569256625602550256c25672568256425652559255825522553256b",
     "256a2518250c25882584258c2590258003c903ac03ad03ae03ca03af03cc03cd03cb03ce038603880389038a",
     "038c038e038f00b12265226403aa03ab00f7224800b0221900b7221a207f00b225a000a0"]⟩,
   ⟨["cp775", "775", "cspc775baltic", "ibm775"],
    ["010600fc00e9010100e4012300e501070142011301560157012b017900c400c500c900e600c6014d00f60122",
     "00a2015a015b00d600dc00f800a300d800d700a40100012a00f3017b017c017a201d00a600a900ae00ac00bd",
     "00bc014100ab00bb259125922593250225240104010c01180116256325512557255d012e0160251025142534",
     "252c251c2500253c0172016a255a25542569256625602550256c017d0105010d01190117012f01610173016b",
     "017e2518250c25882584258c2590258000d300df014c014300f500d500b5014401360137013b013c01460112",
     "0145201900ad00b1201c00be00b600a700f7201e00b0221900b700b900b300b225a000a0"]⟩,
   ⟨["cp850", "850", "cspc850multilingual", "ibm850"],
    ["00c700fc00e900e200e400e000e500e700ea00eb00e800ef00ee00ec00c400c500c900e600c600f400f600f2",
     "00fb00f900ff00d600dc00f800a300d800d7019200e100ed00f300fa00f100d100aa00ba00bf00ae00ac00bd",
     "00bc00a100ab00bb2591259225932502252400c100c200c000a9256325512557255d00a200a5251025142534",
     "252c251c2500253c00e300c3255a25542569256625602550256c00a400f000d000ca00cb00c8013100cd00ce",
     "00cf2518250c2588258400a600cc258000d300df00d400d200f500d500b500fe00de00da00db00d900fd00dd",
     "00af00b400ad00b1201700be00b600a700f700b800b000a800b700b900b300b225a000a0"]⟩,
   ⟨["cp852", "852", "cspcp852", "ibm852"],
    ["00c700fc00e900e200e4016f010700e7014200eb0150015100ee017900c4010600c90139013a00f400f6013d",
     "013e015a015b00d600dc01640165014100d7010d00e100ed00f300fa01040105017d017e0118011900ac017a",
     "010c015f00ab00bb2591259225932502252400c100c2011a015e256325512557255d017b017c251025142534",
     "252c251c2500253c01020103255a25542569256625602550256c00a401110110010e00cb010f014700cd00ce",
     "011b2518250c258825840162016e258000d300df00d401430144014801600161015400da0155017000fd00dd",
     "016300b400ad02dd02db02c702d800a700f700b800b000a802d901710158015925a000a0"]⟩,
   ⟨["cp855", "855", "csibm855", "ibm855"],
    ["045204020453040304510401045404040455040504560406045704070458040804590409045a040a045b040b",
     "045c040c045e040e045f040f044e042e044a042a043004100431041104460426043404140435041504440424",
     "0433041300ab00bb259125922593250225240445042504380418256325512557255d04390419251025142534",
     "252c251c2500253c043a041a255a25542569256625602550256c00a4043b041b043c041c043d041d043e041e",
     "043f2518250c25882584041f044f2580042f044004200441042104420422044304230436041604320412044c",
     "042c211600ad044b042b0437041704480428044d042d044904290447042700a725a000a0"]⟩,
   ⟨["cp856"],
    ["05d005d105d205d305d405d505d605d705d805d905da05db05dc05dd05de05df05e005e105e205e305e405e5",
     "05e605e705e805e905eafffd00a3fffd00d7fffdfffdfffdfffdfffdfffdfffdfffdfffdfffd00ae00ac00bd",
     "00bcfffd00ab00bb25912592259325022524fffdfffdfffd00a9256325512557255d00a200a5251025142534",
     "252c251c2500253cfffdfffd255a25542569256625602550256c00a4fffdfffdfffdfffdfffdfffdfffdfffd",
     "fffd2518250c2588258400a6fffd2580fffdfffdfffdfffdfffdfffd00b5fffdfffdfffdfffdfffdfffdfffd",
     "00af00b400ad00b1201700be00b600a700f700b800b000a800b700b900b300b225a000a0"]⟩,
   ⟨["cp857", "857", "csibm857", "ibm857"],
    ["00c700fc00e900e200e400e000e500e700ea00eb00e800ef00ee013100c400c500c900e600c600f400f600f2",
     "00fb00f9013000d600dc00f800a300d8015e015f00e100ed00f300fa00f100d1011e011f00bf00ae00ac00bd",
     "00bc00a100ab00bb2591259225932502252400c100c200c000a9256325512557255d00a200a5251025142534",
     "252c251c2500253c00e300c3255a25542569256625602550256c00a400ba00aa00ca00cb00c8fffd00cd00ce",
     "00cf2518250c2588258400a600cc258000d300df00d400d200f500d500b5fffd00d700da00db00d900ec00ff",
     "00af00b400ad00b1fffd00be00b600a700f700b800b000a800b700b900b300b225a000a0"]⟩,
   ⟨["cp858", "858", "csibm858", "ibm858"],
    ["00c700fc00e900e200e400e000e500e700ea00eb00e800ef00ee00ec00c400c500c900e600c600f400f600f2",
     "00fb00f900ff00d600dc00f800a300d800d7019200e100ed00f300fa00f100d100aa00ba00bf00ae00ac00bd",
     "00bc00a100ab00bb2591259225932502252400c100c200c000a9256325512557255d00a200a5251025142534",
     "252c251c2500253c00e300c3255a25542569256625602550256c00a400f000d000ca00cb00c820ac00cd00ce",
     "00cf2518250c2588258400a600cc258000d300df00d400d200f500d500b500fe00de00da00db00d900fd00dd",
     "00af00b400ad00b1201700be00b600a700f700b800b000a800b700b900b300b225a000a0"]⟩,
   ⟨["cp860", "860", "csibm860", "ibm860"],
    ["00c700fc00e900e200e300e000c100e700ea00ca00e800cd00d400ec00c300c200c900c000c800f400f500f2",
     "00da00f900cc00d500dc00a200a300d920a700d300e100ed00f300fa00f100d100aa00ba00bf00d200ac00bd",
     "00bc00a100ab00bb259125922593250225242561256225562555256325512557255d255c255b251025142534",
     "252c251c2500253c255e255f255a25542569256625602550256c25672568256425652559255825522553256b",
     "256a2518250c25882584258c2590258003b100df039303c003a303c300b503c403a6039803a903b4221e03c6",
     "03b52229226100b1226522642320232100f7224800b0221900b7221a207f00b225a000a0"]⟩,
   ⟨["cp861", "861", "cp_is", "csibm861", "ibm861"],
    ["00c700fc00e900e200e400e000e500e700ea00eb00e800d000f000de00c400c500c900e600c600f400f600fe",
     "00fb00dd00fd00d600dc00f800a300d820a7019200e100ed00f300fa00c100cd00d300da00bf231000ac00bd",
     "00bc00a100ab00bb259125922593250225242561256225562555256325512557255d255c255b251025142534",
     "252c251c2500253c255e255f255a25542569256625602550256c25672568256425652559255825522553256b",
     "256a2518250c25882584258c2590258003b100df039303c003a303c300b503c403a6039803a903b4221e03c6",
     "03b52229226100b1226522642320232100f7224800b0221900b7221a207f00b225a000a0"]⟩,
   ⟨["cp862", "862", "cspc862latinhebrew", "ibm862"],
    ["05d005d105d205d305d405d505d605d705d805d905da05db05dc05dd05de05df05e005e105e205e305e405e5",
     "05e605e705e805e905ea00a200a300a520a7019200e100ed00f300fa00f100d100aa00ba00bf231000ac00bd",
     "00bc00a100ab00bb259125922593250225242561256225562555256325512557255d255c255b251025142534",
     "252c251c2500253c255e255f255a25542569256625602550256c25672568256425652559255825522553256b",
     "256a2518250c25882584258c2590258003b100df039303c003a303c300b503c403a6039803a903b4221e03c6",
     "03b52229226100b1226522642320232100f7224800b0221900b7221a207f00b225a000a0"]⟩,
   ⟨["cp863", "863", "csibm863", "ibm863"],
    ["00c700fc00e900e200c200e000b600e700ea00eb00e800ef00ee201700c000a700c900c800ca00f400cb00cf",
     "00fb00f900a400d400dc00a200a300d900db019200a600b400f300fa00a800b800b300af00ce231000ac00bd",
     "00bc00be00ab00bb259125922593250225242561256225562555256325512557255d255c255b251025142534",
     "252c251c2500253c255e255f255a25542569256625602550256c25672568256425652559255825522553256b",
     "256a2518250c25882584258c2590258003b100df039303c003a303c300b503c403a6039803a903b4221e03c6",
     "03b52229226100b1226522642320232100f7224800b0221900b7221a207f00b225a000a0"]⟩,
   ⟨["cp864", "864", "csibm864", "ibm864"],
    ["0000000100020003000400050006000700080009000a000b000c000d000e000f001000110012001300140015",
     "0016001700180019001a001b001c001d001e001f00200021002200230024066a0026002700280029002a002b",
     "002c002d002e002f0030003100320033003400350036003700380039003a003b003c003d003e003f00400041",
     "00420043004400450046004700480049004a004b004c004d004e004f00500051005200530054005500560057",
     "00580059005a005b005c005d005e005f0060006100620063006400650066006700680069006a006b006c006d",
     "006e006f0070007100720073007400750076007700780079007a007b007c007d007e007f00b000b72219221a",
     "259225002502253c2524252c251c25342510250c2514251803b2221e03c600b100bd00bc224800ab00bbfef7",
     "fef8fffdfffdfefbfefcfffd00a000adfe8200a300a4fe84fffdfffdfe8efe8ffe95fe99060cfe9dfea1fea5",
     "0660066106620663066406650666066706680669fed1061bfeb1feb5feb9061f00a2fe80fe81fe83fe85feca",
     "fe8bfe8dfe91fe93fe97fe9bfe9ffea3fea7fea9feabfeadfeaffeb3feb7febbfebffec1fec5fecbfecf00a6",
     "00ac00f700d7fec90640fed3fed7fedbfedffee3fee7feebfeedfeeffef3febdfeccfecefecdfee1fe7d0651",
     "fee5fee9feecfef0fef2fed0fed5fef5fef6feddfed9fef125a0fffd"]⟩,
   ⟨["cp865", "865", "csibm865", "ibm865"],
    ["00c700fc00e900e200e400e000e500e700ea00eb00e800ef00ee00ec00c400c500c900e600c600f400f600f2",
     "00fb00f900ff00d600dc00f800a300d820a7019200e100ed00f300fa00f100d100aa00ba00bf231000ac00bd",
     "00bc00a100ab00a4259125922593250225242561256225562555256325512557255d255c255b251025142534",
     "252c251c2500253c255e255f255a25542569256625602550256c25672568256425652559255825522553256b",
     "256a2518250c25882584258c2590258003b100df039303c003a303c300b503c403a6039803a903b4221e03c6",
     "03b52229226100b1226522642320232100f7224800b0221900b7221a207f00b225a000a0"]⟩,
   ⟨["cp866", "866", "csibm866", "ibm866"],
    ["0410041104120413041404150416041704180419041a041b041c041d041e041f042004210422042304240425",
     "0426042704280429042a042b042c042d042e042f0430043104320433043404350436043704380439043a043b",
     "043c043d043e043f259125922593250225242561256225562555256325512557255d255c255b251025142534",
     "252c251c2500253c255e255f255a25542569256625602550256c25672568256425652559255825522553256b",
     "256a2518250c25882584258c259025800440044104420443044404450446044704480449044a044b044c044d",
     "044e044f040104510404045404070457040e045e00b0221900b7221a211600a425a000a0"]⟩,
   ⟨["cp869", "869", "cp_gr", "csibm869", "ibm869"],
    ["fffdfffdfffdfffdfffdfffd0386fffd00b700ac00a620182019038820150389038a03aa038cfffdfffd038e",
     "03ab00a9038f00b200b303ac00a303ad03ae03af03ca039003cc03cd039103920393039403950396039700bd",
     "0398039900ab00bb25912592259325022524039a039b039c039d256325512557255d039e039f251025142534",
     "252c251c2500253c03a003a1255a25542569256625602550256c03a303a403a503a603a703a803a903b103b2",
     "03b32518250c2588258403b403b5258003b603b703b803b903ba03bb03bc03bd03be03bf03c003c103c303c2",
     "03c4038400ad00b103c503c603c700a703c8038500b000a803c903cb03b003ce25a000a0"]⟩,
   ⟨["cp874"],
    ["20acfffdfffdfffdfffd2026fffdfffdfffdfffdfffdfffdfffdfffdfffdfffdfffd20182019201c201d2022",
     "20132014fffdfffdfffdfffdfffdfffdfffdfffd00a00e010e020e030e040e050e060e070e080e090e0a0e0b",
     "0e0c0e0d0e0e0e0f0e100e110e120e130e140e150e160e170e180e190e1a0e1b0e1c0e1d0e1e0e1f0e200e21",
     "0e220e230e240e250e260e270e280e290e2a0e2b0e2c0e2d0e2e0e2f0e300e310e320e330e340e350e360e37",
     "0e380e390e3afffdfffdfffdfffd0e3f0e400e410e420e430e440e450e460e470e480e490e4a0e4b0e4c0e4d",
     "0e4e0e4f0e500e510e520e530e540e550e560e570e580e590e5a0e5bfffdfffdfffdfffd"]⟩,
   ⟨["cp875"],
    ["0000000100020003009c00090086007f0097008d008e000b000c000d000e000f0010001100120013009d0085",
     "00080087001800190092008f001c001d001e001f00800081008200830084000a0017001b00880089008a008b",
     "008c0005000600070090009100160093009400950096000400980099009a009b00140015009e001a00200391",
     "03920393039403950396039703980399005b002e003c0028002b00210026039a039b039c039d039e039f03a0",
     "03a103a3005d0024002a0029003b005e002d002f03a403a503a603a703a803a903aa03ab007c002c0025005f",
     "003e003f00a803860388038900a0038a038c038e038f0060003a002300400027003d00220385006100620063",
     "00640065006600670068006903b103b203b303b403b503b600b0006a006b006c006d006e006f007000710072",
     "03b703b803b903ba03bb03bc00b4007e0073007400750076007700780079007a03bd03be03bf03c003c103c3",
     "00a303ac03ad03ae03ca03af03cc03cd03cb03ce03c203c403c503c603c703c8007b00410042004300440045",
     "004600470048004900ad03c9039003b020182015007d004a004b004c004d004e004f00500051005200b100bd",
     "001a0387201900a6005c001a0053005400550056005700580059005a00b200a7001a001a00ab00ac00300031",
     "0032003300340035003600370038003900b300a9001a001a00bb009f"]⟩,
   ⟨["hp_roman8", "cp1051", "csHPRoman8", "ibm1051", "r8", "roman8"],
    ["0080008100820083008400850086008700880089008a008b008c008d008e008f009000910092009300940095",
     "0096009700980099009a009b009c009d009e009f00a000c000c200c800ca00cb00ce00cf00b402cb02c600a8",
     "02dc00d900db20a400af00dd00fd00b000c700e700d100f100a100bf00a400a300a500a7019200a200e200ea",
     "00f400fb00e100e900f300fa00e000e800f200f900e400eb00f600fc00c500ee00d800c600e500ed00f800e6",
     "00c400ec00d600dc00c900ef00df00d400c100c300e300d000f000cd00cc00d300d200d500f50160016100da",
     "017800ff00de00fe00b700b500b600be201400bc00bd00aa00ba00ab25a000bb00b1fffd"]⟩,
   ⟨["iso8859_10", "csisolatin6", "iso_8859_10", "iso_8859_10_1992", "iso_ir_157", "l6",
      "latin6"],
    ["0080008100820083008400850086008700880089008a008b008c008d008e008f009000910092009300940095",
     "0096009700980099009a009b009c009d009e009f00a0010401120122012a0128013600a7013b011001600166",
     "017d00ad016a014a00b0010501130123012b0129013700b7013c011101610167017e2015016b014b010000c1",
     "00c200c300c400c500c6012e010c00c9011800cb011600cd00ce00cf00d00145014c00d300d400d500d60168",
     "00d8017200da00db00dc00dd00de00df010100e100e200e300e400e500e6012f010d00e9011900eb011700ed",
     "00ee00ef00f00146014d00f300f400f500f6016900f8017300fa00fb00fc00fd00fe0138"]⟩,
   ⟨["iso8859_11", "iso_8859_11", "iso_8859_11_2001", "thai"],
    ["0080008100820083008400850086008700880089008a008b008c008d008e008f009000910092009300940095",
     "0096009700980099009a009b009c009d009e009f00a00e010e020e030e040e050e060e070e080e090e0a0e0b",
     "0e0c0e0d0e0e0e0f0e100e110e120e130e140e150e160e170e180e190e1a0e1b0e1c0e1d0e1e0e1f0e200e21",
     "0e220e230e240e250e260e270e280e290e2a0e2b0e2c0e2d0e2e0e2f0e300e310e320e330e340e350e360e37",
     "0e380e390e3afffdfffdfffdfffd0e3f0e400e410e420e430e440e450e460e470e480e490e4a0e4b0e4c0e4d",
     "0e4e0e4f0e500e510e520e530e540e550e560e570e580e590e5a0e5bfffdfffdfffdfffd"]⟩,
   ⟨["iso8859_13", "iso_8859_13", "l7", "latin7"],
    ["0080008100820083008400850086008700880089008a008b008c008d008e008f009000910092009300940095",
     "0096009700980099009a009b009c009d009e009f00a0201d00a200a300a4201e00a600a700d800a9015600ab",
     "00ac00ad00ae00c600b000b100b200b3201c00b500b600b700f800b9015700bb00bc00bd00be00e60104012e",
     "0100010600c400c501180112010c00c90179011601220136012a013b01600143014500d3014c00d500d600d7",
     "01720141015a016a00dc017b017d00df0105012f0101010700e400e501190113010d00e9017a011701230137",
     "012b013c01610144014600f3014d00f500f600f701730142015b016b00fc017c017e2019"]⟩,
   ⟨["iso8859_14", "iso_8859_14", "iso_8859_14_1998", "iso_celtic", "iso_ir_199", "l8",
      "latin8"],
    ["0080008100820083008400850086008700880089008a008b008c008d008e008f009000910092009300940095",
     "0096009700980099009a009b009c009d009e009f00a01e021e0300a3010a010b1e0a00a71e8000a91e821e0b",
     "1ef200ad00ae01781e1e1e1f012001211e401e4100b61e561e811e571e831e601ef31e841e851e6100c000c1",
     "00c200c300c400c500c600c700c800c900ca00cb00cc00cd00ce00cf017400d100d200d300d400d500d61e6a",
     "00d800d900da00db00dc00dd017600df00e000e100e200e300e400e500e600e700e800e900ea00eb00ec00ed",
     "00ee00ef017500f100f200f300f400f500f61e6b00f800f900fa00fb00fc00fd017700ff"]⟩,
   ⟨["iso8859_15", "iso_8859_15", "l9", "latin9"],
    ["0080008100820083008400850086008700880089008a008b008c008d008e008f009000910092009300940095",
     "0096009700980099009a009b009c009d009e009f00a000a100a200a320ac00a5016000a7016100a900aa00ab",
     "00ac00ad00ae00af00b000b100b200b3017d00b500b600b7017e00b900ba00bb01520153017800bf00c000c1",
     "00c200c300c400c500c600c700c800c900ca00cb00cc00cd00ce00cf00d000d100d200d300d400d500d600d7",
     "00d800d900da00db00dc00dd00de00df00e000e100e200e300e400e500e600e700e800e900ea00eb00ec00ed",
     "00ee00ef00f000f100f200f300f400f500f600f700f800f900fa00fb00fc00fd00fe00ff"]⟩,
   ⟨["iso8859_16", "iso_8859_16", "iso_8859_16_2001", "iso_ir_226", "l10", "latin10"],
    ["0080008100820083008400850086008700880089008a008b008c008d008e008f009000910092009300940095",
     "0096009700980099009a009b009c009d009e009f00a001040105014120ac201e016000a7016100a9021800ab",
     "017900ad017a017b00b000b1010c0142017d201d00b600b7017e010d021900bb015201530178017c00c000c1",
     "00c2010200c4010600c600c700c800c900ca00cb00cc00cd00ce00cf0110014300d200d300d4015000d6015a",
     "017000d900da00db00dc0118021a00df00e000e100e2010300e4010700e600e700e800e900ea00eb00ec00ed",
     "00ee00ef0111014400f200f300f4015100f6015b017100f900fa00fb00fc0119021b00ff"]⟩,
   ⟨["iso8859_2", "csisolatin2", "iso_8859_2", "iso_8859_2_1987", "iso_ir_101", "l2",
      "latin2"],
    ["0080008100820083008400850086008700880089008a008b008c008d008e008f009000910092009300940095",
     "0096009700980099009a009b009c009d009e009f00a0010402d8014100a4013d015a00a700a80160015e0164",
     "017900ad017d017b00b0010502db014200b4013e015b02c700b80161015f0165017a02dd017e017c015400c1",
     "00c2010200c40139010600c7010c00c9011800cb011a00cd00ce010e01100143014700d300d4015000d600d7",
     "0158016e00da017000dc00dd016200df015500e100e2010300e4013a010700e7010d00e9011900eb011b00ed",
     "00ee010f01110144014800f300f4015100f600f70159016f00fa017100fc00fd016302d9"]⟩,
   ⟨["iso8859_3", "csisolatin3", "iso_8859_3", "iso_8859_3_1988", "iso_ir_109", "l3",
      "latin3"],
    ["0080008100820083008400850086008700880089008a008b008c008d008e008f009000910092009300940095",
     "0096009700980099009a009b009c009d009e009f00a0012602d800a300a4fffd012400a700a80130015e011e",
     "013400adfffd017b00b0012700b200b300b400b5012500b700b80131015f011f013500bdfffd017c00c000c1",
     "00c2fffd00c4010a010800c700c800c900ca00cb00cc00cd00ce00cffffd00d100d200d300d4012000d600d7",
     "011c00d900da00db00dc016c015c00df00e000e100e2fffd00e4010b010900e700e800e900ea00eb00ec00ed",
     "00ee00effffd00f100f200f300f4012100f600f7011d00f900fa00fb00fc016d015d02d9"]⟩,
   ⟨["iso8859_4", "csisolatin4", "iso_8859_4", "iso_8859_4_1988", "iso_ir_110", "l4",
      "latin4"],
    ["0080008100820083008400850086008700880089008a008b008c008d008e008f009000910092009300940095",
     "0096009700980099009a009b009c009d009e009f00a001040138015600a40128013b00a700a8016001120122",
     "016600ad017d00af00b0010502db015700b40129013c02c700b80161011301230167014a017e014b010000c1",
     "00c200c300c400c500c6012e010c00c9011800cb011600cd00ce012a01100145014c013600d400d500d600d7",
     "00d8017200da00db00dc0168016a00df010100e100e200e300e400e500e6012f010d00e9011900eb011700ed",
     "00ee012b01110146014d013700f400f500f600f700f8017300fa00fb00fc0169016b02d9"]⟩,
   ⟨["iso8859_5", "csisolatincyrillic", "cyrillic", "iso_8859_5", "iso_8859_5_1988",
      "iso_ir_144"],
    ["0080008100820083008400850086008700880089008a008b008c008d008e008f009000910092009300940095",
     "0096009700980099009a009b009c009d009e009f00a0040104020403040404050406040704080409040a040b",
     "040c00ad040e040f0410041104120413041404150416041704180419041a041b041c041d041e041f04200421",
     "04220423042404250426042704280429042a042b042c042d042e042f04300431043204330434043504360437",
     "04380439043a043b043c043d043e043f0440044104420443044404450446044704480449044a044b044c044d",
     "044e044f2116045104520453045404550456045704580459045a045b045c00a7045e045f"]⟩,
   ⟨["iso8859_6", "arabic", "asmo_708", "csisolatinarabic", "ecma_114", "iso_8859_6",
      "iso_8859_6_1987", "iso_ir_127"],
    ["0080008100820083008400850086008700880089008a008b008c008d008e008f009000910092009300940095",
     "0096009700980099009a009b009c009d009e009f00a0fffdfffdfffd00a4fffdfffdfffdfffdfffdfffdfffd",
     "060c00adfffdfffdfffdfffdfffdfffdfffdfffdfffdfffdfffdfffdfffd061bfffdfffdfffd061ffffd0621",
     "06220623062406250626062706280629062a062b062c062d062e062f06300631063206330634063506360637",
     "06380639063afffdfffdfffdfffdfffd0640064106420643064406450646064706480649064a064b064c064d",
     "064e064f065006510652fffdfffdfffdfffdfffdfffdfffdfffdfffdfffdfffdfffdfffd"]⟩,
   ⟨["iso8859_7", "csisolatingreek", "ecma_118", "elot_928", "greek", "greek8", "iso_8859_7",
      "iso_8859_7_1987", "iso_ir_126"],
    ["0080008100820083008400850086008700880089008a008b008c008d008e008f009000910092009300940095",
     "0096009700980099009a009b009c009d009e009f00a02018201900a320ac20af00a600a700a800a9037a00ab",
     "00ac00adfffd201500b000b100b200b303840385038600b703880389038a00bb038c00bd038e038f03900391",
     "03920393039403950396039703980399039a039b039c039d039e039f03a003a1fffd03a303a403a503a603a7",
     "03a803a903aa03ab03ac03ad03ae03af03b003b103b203b303b403b503b603b703b803b903ba03bb03bc03bd",
     "03be03bf03c003c103c203c303c403c503c603c703c803c903ca03cb03cc03cd03cefffd"]⟩,
   ⟨["iso8859_8", "csisolatinhebrew", "hebrew", "iso_8859_8", "iso_8859_8_1988", "iso_ir_138"],
    ["0080008100820083008400850086008700880089008a008b008c008d008e008f009000910092009300940095",
     "0096009700980099009a009b009c009d009e009f00a0fffd00a200a300a400a500a600a700a800a900d700ab",
     "00ac00ad00ae00af00b000b100b200b300b400b500b600b700b800b900f700bb00bc00bd00befffdfffdfffd",
     "fffdfffdfffdfffdfffdfffdfffdfffdfffdfffdfffdfffdfffdfffdfffdfffdfffdfffdfffdfffdfffdfffd",
     "fffdfffdfffdfffdfffdfffdfffd201705d005d105d205d305d405d505d605d705d805d905da05db05dc05dd",
     "05de05df05e005e105e205e305e405e505e605e705e805e905eafffdfffd200e200ffffd"]⟩,
   ⟨["iso8859_9", "csisolatin5", "iso_8859_9", "iso_8859_9_1989", "iso_ir_148", "l5",
      "latin5"],
    ["0080008100820083008400850086008700880089008a008b008c008d008e008f009000910092009300940095",
     "0096009700980099009a009b009c009d009e009f00a000a100a200a300a400a500a600a700a800a900aa00ab",
     "00ac00ad00ae00af00b000b100b200b300b400b500b600b700b800b900ba00bb00bc00bd00be00bf00c000c1",
     "00c200c300c400c500c600c700c800c900ca00cb00cc00cd00ce00cf011e00d100d200d300d400d500d600d7",
     "00d800d900da00db00dc0130015e00df00e000e100e200e300e400e500e600e700e800e900ea00eb00ec00ed",
     "00ee00ef011f00f100f200f300f400f500f600f700f800f900fa00fb00fc0131015f00ff"]⟩,
   ⟨["koi8_r", "cskoi8r"],
    ["25002502250c251025142518251c2524252c2534253c258025842588258c2590259125922593232025a02219",
     "221a22482264226500a0232100b000b200b700f725502551255204512553255425552556255725582559255a",
     "255b255c255d255e255f25602561040125622563256425652566256725682569256a256b256c00a9044e0430",
     "043104460434043504440433044504380439043a043b043c043d043e043f044f044004410442044304360432",
     "044c044b04370448044d04490447044a042e0410041104260414041504240413042504180419041a041b041c",
     "041d041e041f042f042004210422042304160412042c042b04170428042d04290427042a"]⟩,
   ⟨["koi8_t"],
    ["049b0493201a0492201e202620202021fffd203004b3203904b204b704b6fffd049a20182019201c201d2022",
     "20132014fffd2122fffd203afffdfffdfffdfffdfffd04ef04ee045100a404e300a600a7fffdfffdfffd00ab",
     "00ac00ad00aefffd00b000b100b20401fffd04e200b600b7fffd2116fffd00bbfffdfffdfffd00a9044e0430",
     "043104460434043504440433044504380439043a043b043c043d043e043f044f044004410442044304360432",
     "044c044b04370448044d04490447044a042e0410041104260414041504240413042504180419041a041b041c",
     "041d041e041f042f042004210422042304160412042c042b04170428042d04290427042a"]⟩,
   ⟨["koi8_u"],
    ["25002502250c251025142518251c2524252c2534253c258025842588258c2590259125922593232025a02219",
     "221a22482264226500a0232100b000b200b700f725502551255204510454255404560457255725582559255a",
     "255b0491255d255e255f25602561040104042563040604072566256725682569256a0490256c00a9044e0430",
     "043104460434043504440433044504380439043a043b043c043d043e043f044f044004410442044304360432",
     "044c044b04370448044d04490447044a042e0410041104260414041504240413042504180419041a041b041c",
     "041d041e041f042f042004210422042304160412042c042b04170428042d04290427042a"]⟩,
   ⟨["kz1048", "kz_1048", "rk1048", "strk1048_2002"],
    ["04020403201a0453201e20262020202120ac203004092039040a049a04ba040f045220182019201c201d2022",
     "20132014fffd21220459203a045a049b04bb045f00a004b004b104d800a404e800a600a7040100a9049200ab",
     "00ac00ad00ae04ae00b000b10406045604e900b500b600b704512116049300bb04d904a204a304af04100411",
     "04120413041404150416041704180419041a041b041c041d041e041f04200421042204230424042504260427",
     "04280429042a042b042c042d042e042f0430043104320433043404350436043704380439043a043b043c043d",
     "043e043f0440044104420443044404450446044704480449044a044b044c044d044e044f"]⟩,
   ⟨["mac_arabic"],
    ["00c400a000c700c900d100d600dc00e100e000e200e406ba00ab00e700e900e800ea00eb00ed202600ee00ef",
     "00f100f300bb00f400f600f700fa00f900fb00fc00200021002200230024066a0026002700280029002a002b",
     "060c002d002e002f0660066106620663066406650666066706680669003a061b003c003d003e061f274a0621",
     "06220623062406250626062706280629062a062b062c062d062e062f06300631063206330634063506360637",
     "06380639063a005b005c005d005e005f0640064106420643064406450646064706480649064a064b064c064d",
     "064e064f065006510652067e0679068606d506a406af06880691007b007c007d069806d2"]⟩,
   ⟨["mac_croatian"],
    ["00c400c500c700c900d100d600dc00e100e000e200e400e300e500e700e900e800ea00eb00ed00ec00ee00ef",
     "00f100f300f200f400f600f500fa00f900fb00fc202000b000a200a300a7202200b600df00ae0160212200b4",
     "00a82260017d00d8221e00b122642265220600b522022211220f0161222b00aa00ba03a9017e00f800bf00a1",
     "00ac221a01922248010600ab010c202600a000c000c300d50152015301102014201c201d2018201900f725ca",
     "f8ff00a9204420ac2039203a00c600bb201300b7201a201e203000c2010700c1010d00c800cd00ce00cf00cc",
     "00d300d4011100d200da00db00d9013102c602dc00af03c000cb02da00b800ca00e602c7"]⟩,
   ⟨["mac_cyrillic", "maccyrillic"],
    ["0410041104120413041404150416041704180419041a041b041c041d041e041f042004210422042304240425",
     "0426042704280429042a042b042c042d042e042f202000b0049000a300a7202200b6040600ae00a921220402",
     "0452226004030453221e00b122642265045600b504910408040404540407045704090459040a045a04580405",
     "00ac221a01922248220600ab00bb202600a0040b045b040c045c045520132014201c201d2018201900f7201e",
     "040e045e040f045f211604010451044f0430043104320433043404350436043704380439043a043b043c043d",
     "043e043f0440044104420443044404450446044704480449044a044b044c044d044e20ac"]⟩,
   ⟨["mac_farsi"],
    ["00c400a000c700c900d100d600dc00e100e000e200e406ba00ab00e700e900e800ea00eb00ed202600ee00ef",
     "00f100f300bb00f400f600f700fa00f900fb00fc00200021002200230024066a0026002700280029002a002b",
     "060c002d002e002f06f006f106f206f306f406f506f606f706f806f9003a061b003c003d003e061f274a0621",
     "06220623062406250626062706280629062a062b062c062d062e062f06300631063206330634063506360637",
     "06380639063a005b005c005d005e005f0640064106420643064406450646064706480649064a064b064c064d",
     "064e064f065006510652067e0679068606d506a406af06880691007b007c007d069806d2"]⟩,
   ⟨["mac_greek", "macgreek"],
    ["00c400b900b200c900b300d600dc038500e000e200e4038400a800e700e900e800ea00eb00a3212200ee00ef",
     "202200bd203000f400f600a620ac00f900fb00fc2020039303940398039b039e03a000df00ae00a903a303aa",
     "00a7226000b000b7039100b12264226500a503920395039603970399039a039c03a603ab03a803a903ac039d",
     "00ac039f03a1224803a400ab00bb202600a003a503a703860388015320132015201c201d2018201900f70389",
     "038a038c038e03ad03ae03af03cc038f03cd03b103b203c803b403b503c603b303b703b903be03ba03bb03bc",
     "03bd03bf03c003ce03c103c303c403b803c903c203c703c503b603ca03cb039003b000ad"]⟩,
   ⟨["mac_iceland", "maciceland"],
    ["00c400c500c700c900d100d600dc00e100e000e200e400e300e500e700e900e800ea00eb00ed00ec00ee00ef",
     "00f100f300f200f400f600f500fa00f900fb00fc00dd00b000a200a300a7202200b600df00ae00a9212200b4",
     "00a8226000c600d8221e00b12264226500a500b522022211220f03c0222b00aa00ba03a900e600f800bf00a1",
     "00ac221a01922248220600ab00bb202600a000c000c300d50152015320132014201c201d2018201900f725ca",
     "00ff0178204420ac00d000f000de00fe00fd00b7201a201e203000c200ca00c100cb00c800cd00ce00cf00cc",
     "00d300d4f8ff00d200da00db00d9013102c602dc00af02d802d902da00b802dd02db02c7"]⟩,
   ⟨["mac_latin2", "mac_centeuro", "maccentraleurope", "maclatin2"],
    ["00c40100010100c9010400d600dc00e10105010c00e4010d0106010700e90179017a010e00ed010f01120113",
     "011600f3011700f400f600f500fa011a011b00fc202000b0011800a300a7202200b600df00ae00a921220119",
     "00a822600123012e012f012a22642265012b0136220222110142013b013c013d013e0139013a014501460143",
     "00ac221a01440147220600ab00bb202600a00148015000d50151014c20132014201c201d2018201900f725ca",
     "014d0154015501582039203a0159015601570160201a201e0161015a015b00c10164016500cd017d017e016a",
     "00d300d4016b016e00da016f017001710172017300dd00fd0137017b0141017c012202c7"]⟩,
   ⟨["mac_roman", "macintosh", "macroman"],
    ["00c400c500c700c900d100d600dc00e100e000e200e400e300e500e700e900e800ea00eb00ed00ec00ee00ef",
     "00f100f300f200f400f600f500fa00f900fb00fc202000b000a200a300a7202200b600df00ae00a9212200b4",
     "00a8226000c600d8221e00b12264226500a500b522022211220f03c0222b00aa00ba03a900e600f800bf00a1",
     "00ac221a01922248220600ab00bb202600a000c000c300d50152015320132014201c201d2018201900f725ca",
     "00ff0178204420ac2039203afb01fb02202100b7201a201e203000c200ca00c100cb00c800cd00ce00cf00cc",
     "00d300d4f8ff00d200da00db00d9013102c602dc00af02d802d902da00b802dd02db02c7"]⟩,
   ⟨["mac_romanian"],
    ["00c400c500c700c900d100d600dc00e100e000e200e400e300e500e700e900e800ea00eb00ed00ec00ee00ef",
     "00f100f300f200f400f600f500fa00f900fb00fc202000b000a200a300a7202200b600df00ae00a9212200b4",
     "00a8226001020218221e00b12264226500a500b522022211220f03c0222b00aa00ba03a90103021900bf00a1",
     "00ac221a01922248220600ab00bb202600a000c000c300d50152015320132014201c201d2018201900f725ca",
     "00ff0178204420ac2039203a021a021b202100b7201a201e203000c200ca00c100cb00c800cd00ce00cf00cc",
     "00d300d4f8ff00d200da00db00d9013102c602dc00af02d802d902da00b802dd02db02c7"]⟩,
   ⟨["mac_turkish", "macturkish"],
    ["00c400c500c700c900d100d600dc00e100e000e200e400e300e500e700e900e800ea00eb00ed00ec00ee00ef",
     "00f100f300f200f400f600f500fa00f900fb00fc202000b000a200a300a7202200b600df00ae00a9212200b4",
     "00a8226000c600d8221e00b12264226500a500b522022211220f03c0222b00aa00ba03a900e600f800bf00a1",
     "00ac221a01922248220600ab00bb202600a000c000c300d50152015320132014201c201d2018201900f725ca",
     "00ff0178011e011f01300131015e015f202100b7201a201e203000c200ca00c100cb00c800cd00ce00cf00cc",
     "00d300d4f8ff00d200da00db00d9f8a002c602dc00af02d802d902da00b802dd02db02c7"]⟩,
   ⟨["palmos"],
    ["20ac0081201a0192201e20262020202102c62030016020390152266626632665266020182019201c201d2022",
     "2013201402dc21220161009b0153009d009e017800a000a100a200a300a400a500a600a700a800a900aa00ab",
     "00ac00ad00ae00af00b000b100b200b300b400b500b600b700b800b900ba00bb00bc00bd00be00bf00c000c1",
     "00c200c300c400c500c600c700c800c900ca00cb00cc00cd00ce00cf00d000d100d200d300d400d500d600d7",
     "00d800d900da00db00dc00dd00de00df00e000e100e200e300e400e500e600e700e800e900ea00eb00ec00ed",
     "00ee00ef00f000f100f200f300f400f500f600f700f800f900fa00fb00fc00fd00fe00ff"]⟩,
   ⟨["ptcp154", "cp154", "csptcp154", "cyrillic_asian", "pt154"],
    ["0496049204ee0493201e202604b604ae04b204af04a004e204a2049a04ba04b8049720182019201c201d2022",
     "2013201404b304b704a104e304a3049b04bb04b900a0040e045e040804e8049804b000a7040100a904d800ab",
     "00ac04ef00ae049c00b004b104060456049904e900b600b70451211604d900bb045804aa04ab049d04100411",
     "04120413041404150416041704180419041a041b041c041d041e041f04200421042204230424042504260427",
     "04280429042a042b042c042d042e042f0430043104320433043404350436043704380439043a043b043c043d",
     "043e043f0440044104420443044404450446044704480449044a044b044c044d044e044f"]⟩,
   ⟨["tis_620", "iso_ir_166", "tis620", "tis_620_0", "tis_620_2529_0", "tis_620_2529_1"],
    ["0080008100820083008400850086008700880089008a008b008c008d008e008f009000910092009300940095",
     "0096009700980099009a009b009c009d009e009ffffd0e010e020e030e040e050e060e070e080e090e0a0e0b",
     "0e0c0e0d0e0e0e0f0e100e110e120e130e140e150e160e170e180e190e1a0e1b0e1c0e1d0e1e0e1f0e200e21",
     "0e220e230e240e250e260e270e280e290e2a0e2b0e2c0e2d0e2e0e2f0e300e310e320e330e340e350e360e37",
     "0e380e390e3afffdfffdfffdfffd0e3f0e400e410e420e430e440e450e460e470e480e490e4a0e4b0e4c0e4d",
     "0e4e0e4f0e500e510e520e530e540e550e560e570e580e590e5a0e5bfffdfffdfffdfffd"]⟩]

end ApiCompiler.Charset
